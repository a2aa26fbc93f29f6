import Ocpp.ChargePoint.Effects

/-!
# One transaction per connector

A start and a cable plug look for a transaction on the connector first and record their own much later.
Between the two they are opening the connector. Two transactions share a connector only after a task
began to open one that hosted a transaction or that another task was opening.
-/

namespace Ocpp.ChargePoint
open Library Library.Program V16j V201

variable (config : Config) (rfc : Rfc3339)

def OnePerConnector (s : Station) : Prop :=
  ∀ tid tid' connectorId, s.activeTransactions.lookup tid = some connectorId →
    s.activeTransactions.lookup tid' = some connectorId → tid = tid'

def Op.records (connectorId : Nat) : Op → Prop
  | insertActive _ target => target = connectorId
  | _ => False

def Op.Unrecorded (op : Op) : Prop :=
  ∀ tid connectorId, op ≠ .insertActive tid connectorId

/-- The reads that decide whether a start or a cable plug opens a transaction of its own. -/
def Op.looks : Op → Prop
  | findActive _ | getSession _ => True
  | _ => False

/-- The program will record a transaction on the connector without looking for one again. -/
def Opening (connectorId : Nat) (p : Async Unit) : Prop :=
  p.Reaches (Op.records connectorId) Op.looks

/-- Whenever a step makes a task open a connector, the connector hosts no transaction and no other task
is opening it. -/
def OpensFree (system : System) (action : Action) : Prop :=
  ∀ system' task connectorId, system.step config rfc action = some system' →
    ¬system.At (Opening connectorId) task → system'.At (Opening connectorId) task →
    (∀ tid, system.shared.activeTransactions.lookup tid ≠ some connectorId) ∧
      ∀ task', ¬system.At (Opening connectorId) task'

/-- A program records at most one transaction: none follows the first. -/
def RecordedOnce (op : Op) (_ : op.Result) (rest : Async Unit) : Prop :=
  op.Unrecorded ∨ rest.Within Op.Unrecorded

structure Exclusive (system : System) : Prop where
  once : system.Each fun _ p => p.Follows RecordedOnce
  one : OnePerConnector system.shared
  opener : ∀ task task' connectorId, system.At (Opening connectorId) task →
    system.At (Opening connectorId) task' → task = task'
  free : ∀ task connectorId, system.At (Opening connectorId) task →
    ∀ tid, system.shared.activeTransactions.lookup tid ≠ some connectorId

/-! ## A task records one transaction -/

theorem recordedOnce_of_within {p : Async Unit} (within : p.Within Op.Unrecorded) :
    p.Follows RecordedOnce :=
  within.follows fun _ _ _ unrecorded _ => Or.inl unrecorded

theorem unrecorded_then {α : Type} {p : Async α} {f : α → Async Unit} (first : p.Within Op.Unrecorded)
    (rest : ∀ value, (f value).Follows RecordedOnce) : (p >>= f).Follows RecordedOnce :=
  first.follows_bind (fun _ _ _ unrecorded => Or.inl unrecorded) rest

theorem recorded_then {tid : Int} {connectorId : Nat} {f : Unit → Async Unit}
    (rest : (f ()).Within Op.Unrecorded) :
    (act (.insertActive tid connectorId) >>= f).Follows RecordedOnce :=
  fun _ => ⟨Or.inr rest, recordedOnce_of_within rest⟩

theorem unrecorded_of_foldOps {connectorId : Nat} {chargingProfile : Option ChargingProfileType} {op : Op}
    (folds : foldOps connectorId chargingProfile op) : op.Unrecorded := by
  rintro tid target rfl
  exact folds

theorem unrecorded_of_openOps {chargingProfile : Option ChargingProfileType} {op : Op}
    (opens : openOps chargingProfile op) : op.Unrecorded := by
  rintro tid target rfl
  exact opens

theorem start_recordedOnce (connectorId : Nat) (idTag : String) (meterStart : Int)
    (remoteStartId : Option Int) (chargingProfile : Option ChargingProfileType)
    (groupIdToken : Option IdTokenType) :
    (do let _ ← startTransactionWithRemoteStartId config connectorId idTag meterStart remoteStartId
          chargingProfile groupIdToken : Async Unit).Follows RecordedOnce := by
  have fold := foldAuthorizationOntoPlugOpen_within config connectorId idTag chargingProfile groupIdToken
  have opened := openTransaction_within config connectorId idTag meterStart remoteStartId
    chargingProfile groupIdToken
  rw [startTransactionWithRemoteStartId, bind_bind]
  refine unrecorded_then (fold.mono fun _ => unrecorded_of_foldOps) fun folded => ?_
  cases folded with
  | some transactionId => trivial
  | none =>
      simp only [bind_bind]
      refine unrecorded_then (within_sendStatusNotification (by simp [Op.Unrecorded])) fun _ => ?_
      refine unrecorded_then (opened.mono fun _ => unrecorded_of_openOps) fun transactionId => ?_
      refine recorded_then ?_
      exact ((energizeConnector_within config connectorId transactionId chargingProfile).mono
        fun _ => unrecorded_of_foldOps).bind fun _ => trivial

theorem openOnCablePlug_recordedOnce (evseId : Int) :
    (do let _ ← openTransactionOnCablePlug config evseId : Async Unit).Follows RecordedOnce := by
  unfold openTransactionOnCablePlug
  split
  · trivial
  · simp only [bind_bind]
    refine unrecorded_then (within_act (by simp [Op.Unrecorded])) fun transactionId => ?_
    refine unrecorded_then (within_call (by simp [Op.Unrecorded])) fun _ => ?_
    refine unrecorded_then (within_act (by simp [Op.Unrecorded])) fun _ => ?_
    exact recorded_then trivial

theorem plug_recordedOnce (evseId : Int) :
    (do let _ ← plugInCable config evseId : Async Unit).Follows RecordedOnce := by
  unfold plugInCable
  cases config.protocolVersion with
  | v16j => trivial
  | v201 =>
      have emit := emitTransactionStateChange_within evseId .evConnected .cablePluggedIn
      simp only [bind_bind]
      refine unrecorded_then (emit.mono ?_) fun outcome => ?_
      · rintro op inside tid connectorId rfl
        exact inside
      · cases outcome with
        | noTransaction =>
            dsimp only
            split_ifs
            · exact openOnCablePlug_recordedOnce config evseId
            · trivial
        | emitted _ => trivial
        | redundant => trivial
        | opened _ _ => trivial

def Call.Opens : Call → Prop
  | startTransaction .. | plugInCable _ | command (.startTransaction ..) => True
  | _ => False

theorem Call.unrecorded {call : Call} (others : ¬call.Opens) {op : Op} (performed : call.ops op) :
    op.Unrecorded := by
  rintro tid connectorId rfl
  cases call with
  | startTransaction | plugInCable => exact others trivial
  | command queued =>
      cases queued with
      | startTransaction => exact others trivial
      | _ => simp [Call.ops, RemoteCommand.ops, resetOps, stopOps, reportOps, applyOps] at performed
  | _ => simp [Call.ops, stopOps, driveOps, reportOps, requestOps, v201ResetOps, changeAvailabilityOps,
      reserveOps, releaseOps, profileOps] at performed

theorem Call.run_recordedOnce (call : Call) : (call.run config rfc).Follows RecordedOnce := by
  by_cases opens : call.Opens
  · cases call with
    | startTransaction connectorId idTag meterStart =>
        exact start_recordedOnce config connectorId idTag meterStart none none none
    | plugInCable evseId => exact plug_recordedOnce config evseId
    | command queued =>
        cases queued with
        | startTransaction connectorId idTag remoteStartId chargingProfile groupIdToken =>
            exact start_recordedOnce config connectorId idTag 0 remoteStartId chargingProfile groupIdToken
        | _ => exact opens.elim
    | _ => exact opens.elim
  · exact recordedOnce_of_within ((call.run_within config rfc).mono fun _ => Call.unrecorded opens)

theorem recordedOnce_step {system system' : System} {action : Action}
    (each : system.Each fun _ p => p.Follows RecordedOnce)
    (stepped : system.step config rfc action = some system') :
    system'.Each fun _ p => p.Follows RecordedOnce := by
  refine Pool.each_step ?_ (fun _ _ _ result follows => (follows result).2) each stepped
  intro s task call p s' started
  rw [(Call.start_shared started).1]
  exact call.run_recordedOnce config rfc

/-! ## Runs -/

theorem opening_step {system system' : System} {action : Action} {task : Nat} {connectorId : Nat}
    (opensFree : OpensFree config rfc system action)
    (stepped : system.step config rfc action = some system')
    (opening : system'.At (Opening connectorId) task) :
    system.At (Opening connectorId) task ∨ task = action.task ∧
      (∀ tid, system.shared.activeTransactions.lookup tid ≠ some connectorId) ∧
        ∀ task', ¬system.At (Opening connectorId) task' := by
  by_cases before : system.At (Opening connectorId) task
  · exact Or.inl before
  · refine Or.inr ⟨?_, opensFree system' task connectorId stepped before opening⟩
    by_contra other
    obtain ⟨call, p, running, opens⟩ := opening
    rw [Pool.step_other stepped other] at running
    exact before ⟨call, p, running, opens⟩

/-- A step records at most the transaction of a task that was opening its connector and is opening
none afterwards. -/
theorem active_step {system system' : System} {action : Action}
    (once : system.Each fun _ p => p.Follows RecordedOnce)
    (stepped : system.step config rfc action = some system') {tid : Int} {connectorId : Nat}
    (found : system'.shared.activeTransactions.lookup tid = some connectorId) :
    system.shared.activeTransactions.lookup tid = some connectorId ∨
      system.At (Opening connectorId) action.task ∧
        (∀ connectorId', ¬system'.At (Opening connectorId') action.task) ∧
        ∀ tid', tid' ≠ tid → system'.shared.activeTransactions.lookup tid' =
          system.shared.activeTransactions.lookup tid' := by
  cases action with
  | spawn task call =>
      obtain ⟨p, s, -, started, rfl⟩ := Pool.step_spawn stepped
      obtain ⟨-, commands, timers, rfl⟩ := Call.start_shared started
      exact Or.inl found
  | drop task =>
      obtain ⟨call, p, -, -, rfl⟩ := Pool.step_drop stepped
      exact Or.inl found
  | advance task choice =>
      obtain ⟨call, op, next, result, s, running, performed, rfl⟩ := Pool.step_advance stepped
      have effect := exec_effect performed
      subst effect
      rw [Op.effect_activeTransactions] at found
      rcases lookup_onActive found with before | rfl
      · exact Or.inl before
      · refine Or.inr ⟨⟨call, _, running, Or.inl rfl⟩, ?_, fun tid' other => ?_⟩
        · rintro connectorId' ⟨call', p', after, opening⟩
          have followed := (once task call _ running result).1
          have rest : (next result).Within Op.Unrecorded :=
            followed.resolve_left fun unrecorded => unrecorded tid connectorId rfl
          rcases Pool.task_of_update after with ⟨-, -, rfl⟩ | ⟨other, -⟩
          · refine rest.not_reaches (fun op unrecorded recorded => ?_) opening
            cases op <;> first | exact recorded | exact unrecorded _ _ rfl
          · exact other rfl
        · rw [Op.effect_activeTransactions]
          exact AList.lookup_insert_ne other

theorem exclusive_step {system system' : System} {action : Action}
    (inv : Exclusive system) (opensFree : OpensFree config rfc system action)
    (stepped : system.step config rfc action = some system') : Exclusive system' := by
  have once := inv.once
  constructor
  · exact recordedOnce_step config rfc once stepped
  · intro tid tid' connectorId found found'
    rcases active_step config rfc once stepped found with before | ⟨opening, -, -⟩ <;>
      rcases active_step config rfc once stepped found' with before' | ⟨opening', -, others⟩
    · exact inv.one tid tid' connectorId before before'
    · by_contra different
      exact inv.free _ _ opening' tid before
    · exact absurd before' (inv.free _ _ opening tid')
    · by_contra different
      rw [others tid different] at found
      exact inv.free _ _ opening tid found
  · intro task task' connectorId opening opening'
    rcases opening_step config rfc opensFree stepped opening with before | ⟨moved, -, alone⟩ <;>
      rcases opening_step config rfc opensFree stepped opening' with before' | ⟨moved', -, alone'⟩
    · exact inv.opener task task' connectorId before before'
    · exact absurd before (alone' task)
    · exact absurd before' (alone task')
    · exact moved.trans moved'.symm
  · intro task connectorId opening tid found
    rcases opening_step config rfc opensFree stepped opening with before | ⟨-, free, alone⟩ <;>
      rcases active_step config rfc once stepped found with active | ⟨recording, closed, -⟩
    · exact inv.free task connectorId before tid active
    · obtain rfl := inv.opener task action.task connectorId before recording
      exact closed connectorId opening
    · exact free tid active
    · exact alone _ recording

theorem exclusive_new : Exclusive System.new := by
  constructor
  · intro task call p running
    cases running
  · intro tid tid' connectorId found
    simp [System.new, Station.new] at found
  · rintro task task' connectorId ⟨call, p, running, -⟩
    cases running
  · rintro task connectorId ⟨call, p, running, -⟩
    cases running

/-- In every run in which a task begins to open a connector only while the connector hosts no
transaction and no other task is opening it, no two transactions share a connector. -/
theorem one_transaction_per_connector {actions : List Action} {system : System}
    (along : Along (System.step config rfc) (OpensFree config rfc) System.new actions)
    (ran : run (System.step config rfc) System.new actions = some system) :
    OnePerConnector system.shared := by
  exact (run_invariant (fun _ _ _ => exclusive_step config rfc) exclusive_new along ran).one

/-! ## A run that opens two -/

/-- The steps of one start on a free 1.6J connector, up to its transaction being recorded. -/
def startSteps (task : Nat) (found : Option Int) (transactionId : Int) : List Action :=
  .spawn task (.startTransaction 1 "TAG" 0) ::
    drive task ([.pick found] ++ found.toList.map (fun _ => .none) ++
      [answered 0, answered transactionId, .none])

theorem opensFree_alone {system : System} {action : Action} (idle : system.shared.idle)
    (alone : ∀ task, task ≠ action.task → system.tasks task = none) :
    OpensFree config rfc system action := by
  intro system' task connectorId stepped before after
  have empty : system.shared.activeTransactions = ∅ := AList.ext (List.isEmpty_iff.mp idle)
  refine ⟨fun tid => by simp [empty], ?_⟩
  rintro task' ⟨call', p', running', opens'⟩
  by_cases moved : task' = action.task
  · by_cases same : task = action.task
    · exact before ⟨call', p', by rw [same, ← moved, running'], opens'⟩
    · obtain ⟨call, p, running, -⟩ := after
      rw [Pool.step_other stepped same, alone task same] at running
      cases running
  · rw [alone task' moved] at running'
    cases running'

theorem one_start_one_transaction :
    ∃ system, run (System.step (simulator .v16j) noDates) System.new (startSteps 1 none 7) = some system ∧
      system.shared.activeTransactions.lookup 7 = some 1 ∧ OnePerConnector system.shared := by
  obtain ⟨system, ran, recorded⟩ := Option.map_eq_some_iff.mp
    (rfl : (run (System.step (simulator .v16j) noDates) System.new (startSteps 1 none 7)).map
      (·.shared.activeTransactions.lookup 7) = some (some 1))
  refine ⟨system, ran, recorded, one_transaction_per_connector (simulator .v16j) noDates ?_ ran⟩
  refine Along.of_check (fun system => ∀ task, task ≠ 1 → system.tasks task = none)
    (fun system action => system.shared.idle && action.task = 1) ?_ ?_ (fun _ _ => rfl) rfl
  · intro system action alone checked
    obtain ⟨idle, mine⟩ := (Bool.and_eq_true _ _).mp checked
    exact opensFree_alone _ _ idle (of_decide_eq_true mine ▸ alone)
  · intro system action system' alone checked stepped task other
    have mine := of_decide_eq_true ((Bool.and_eq_true _ _).mp checked).2
    rw [Pool.step_other stepped (mine ▸ other), alone task other]

theorem two_starts_share_connector :
    ∃ system, run (System.step (simulator .v16j) noDates) System.new
        (startSteps 1 none 7 ++ startSteps 2 (some 7) 8) = some system ∧
      ¬OnePerConnector system.shared := by
  obtain ⟨system, ran, recorded⟩ := Option.map_eq_some_iff.mp
    (rfl : (run (System.step (simulator .v16j) noDates) System.new
      (startSteps 1 none 7 ++ startSteps 2 (some 7) 8)).map
        (fun system => (system.shared.activeTransactions.lookup 7,
          system.shared.activeTransactions.lookup 8)) = some (some 1, some 1))
  obtain ⟨first, second⟩ := Prod.mk.inj recorded
  exact ⟨system, ran, fun one => absurd (one 7 8 1 first second) (by decide)⟩

end Ocpp.ChargePoint
