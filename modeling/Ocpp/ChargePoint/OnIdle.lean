import Ocpp.ChargePoint.Deferred

/-!
# Deferred work and live sessions

A Soft reset and an availability change are queued only after a look at the transactions has found the
station, or the connector, free. The command runs later, on the consumer. It meets no live session as long
as none is recorded in the meantime.
-/

namespace Ocpp.ChargePoint
open Library Library.Program V16j V201

variable (config : Config) (rfc : Rfc3339)

/-- On a 2.0.1 station an `OnIdle` request queues a Soft reset. -/
inductive Deferral
  | reset
  | apply (connectorId : Nat)

namespace Deferral

def Queued : Deferral → RemoteCommand → Prop
  | reset, command => command = .reset .soft
  | apply connectorId, command =>
      ∃ target scheduled, command = .v201ApplyAvailability connectorId target scheduled

/-- The operation at which the command meets the transactions: a reset lists them, and an availability
change sets the status of the connector. -/
def Meets : Deferral → Op → Prop
  | reset, op => op = .listActive
  | apply connectorId, op => ∃ status, op = .setStatus connectorId status

def Concerns : Deferral → Nat → Prop
  | reset, _ => True
  | apply connectorId, target => target = connectorId

def Clear (deferral : Deferral) (active : HashMap Int Nat) : Prop :=
  ∀ tid connectorId, active.lookup tid = some connectorId → ¬deferral.Concerns connectorId

end Deferral

def Op.queues (deferral : Deferral) : Op → Prop
  | enqueue command => deferral.Queued command
  | _ => False

def Op.checks : Op → Prop
  | readActive | takeIfIdle => True
  | _ => False

/-- The program may queue the command without another look at the transactions. -/
def MayQueue {α : Type} (deferral : Deferral) (p : Async α) : Prop :=
  p.Reaches (Op.queues deferral) Op.checks

/-- The command is past its look at the transactions and has not met them yet. -/
inductive System.Coming (system : System) (deferral : Deferral) : Prop
  | checked (task : Nat) (here : system.At (MayQueue deferral) task)
  | queued (command : RemoteCommand) (mem : command ∈ system.shared.commands)
      (deferred : deferral.Queued command)
  | begun (task : Nat) (command : RemoteCommand) (p : Async Unit) (deferred : deferral.Queued command)
      (running : system.tasks task = some (.command command, p))
      (ahead : p.Reaches deferral.Meets fun _ => False)

/-- A transaction is recorded on a connector only while no command is coming that concerns it. -/
def RecordsClear (system : System) : Action → Prop
  | .advance task _ => ∀ call tid connectorId,
      system.pending task = some (call, .insertActive tid connectorId) →
        ∀ deferral : Deferral, deferral.Concerns connectorId → ¬system.Coming deferral
  | _ => True

/-- The operations that take part in ending a transaction. -/
def Op.EndsTransaction : Op → Prop
  | removeActive _ | removeSession _ | stopSampler _ | call (.stopTransaction ..) => True
  | call (.transactionEvent event) => event.eventType = .ended
  | _ => False

/-- A Soft reset ends no transaction, and an availability change sets the status of no connector that hosts
one. -/
def NeverInterrupts (system : System) : Action → Prop
  | .advance task _ =>
      (∀ op, system.pending task = some (.command (.reset .soft), op) → ¬op.EndsTransaction) ∧
        ∀ connectorId target scheduled connectorId' status,
          system.pending task = some (.command (.v201ApplyAvailability connectorId target scheduled),
            .setStatus connectorId' status) →
          ∀ tid, system.shared.activeTransactions.lookup tid ≠ some connectorId'
  | _ => True

/-! ## Commands are queued after a look -/

section Programs

variable (deferral : Deferral)

/-- A command is queued only after a look that found what it concerns free. -/
def Checked {α : Type} : (op : Op) → op.Result → Async α → Prop
  | .readActive, active, rest => MayQueue deferral rest → deferral.Clear active
  | .takeIfIdle, armed, rest => MayQueue deferral rest → armed ≠ (none, none)
  | _, _, _ => True

theorem Checked.of_unqueued {α : Type} {op : Op} {result : op.Result} {rest : Async α}
    (unqueued : ¬MayQueue deferral rest) : Checked deferral op result rest := by
  cases op <;> first | exact fun queues => absurd queues unqueued | trivial

theorem Checked.bind {α β : Type} {op : Op} {result : op.Result} {rest : Async α} {f : α → Async β}
    (unqueued : ∀ value, ¬MayQueue deferral (f value)) (checked : Checked deferral op result rest) :
    Checked deferral op result (rest >>= f) := by
  have before : MayQueue deferral (rest >>= f) → MayQueue deferral rest := by
    intro queues
    by_contra unqueued'
    exact not_reaches_bind unqueued' unqueued queues
  cases op
  case readActive | takeIfIdle => exact fun queues => checked (before queues)
  all_goals trivial

theorem Checked.attempt {α : Type} {op : Op} {result : op.Result} {rest : Async α}
    (checked : Checked deferral op result rest) :
    Checked deferral op result (rest.attempt : Async (Except OcppError α)) := by
  have before : MayQueue deferral (rest.attempt : Async (Except OcppError α)) → MayQueue deferral rest := by
    intro queues
    by_contra unqueued
    exact not_reaches_attempt unqueued queues
  cases op
  case readActive | takeIfIdle => exact fun queues => checked (before queues)
  all_goals trivial

/-- The operations that queue no deferred command. -/
def Op.Unqueued : Op → Prop
  | enqueue (.reset _) | enqueue (.v201ApplyAvailability ..) => False
  | _ => True

theorem Op.Unqueued.not_queues {op : Op} (unqueued : op.Unqueued) : ¬op.queues deferral := by
  intro queues
  cases op
  case enqueue command =>
    cases deferral with
    | reset =>
        cases queues
        exact unqueued
    | apply connectorId =>
        obtain ⟨target, scheduled, rfl⟩ := queues
        exact unqueued
  all_goals exact queues

theorem unqueued_of_within {α : Type} {p : Async α} (within : p.Within Op.Unqueued) :
    ¬MayQueue deferral p :=
  within.not_reaches fun _ unqueued => unqueued.not_queues deferral

theorem checked_of_within {α : Type} {p : Async α} (within : p.Within Op.Unqueued) :
    p.Follows (Checked deferral) :=
  within.follows fun _ _ _ _ rest => Checked.of_unqueued deferral (unqueued_of_within deferral rest)

theorem checked_of_blind {α : Type} {p : Async α} (within : p.Within fun op => ¬op.checks) :
    p.Follows (Checked deferral) := by
  refine within.follows fun op result rest blind _ => ?_
  cases op <;> first | exact absurd trivial blind | trivial

theorem blind_then {α β : Type} {p : Async α} {f : α → Async β} (within : p.Within fun op => ¬op.checks)
    (rest : ∀ value, (f value).Follows (Checked deferral)) : (p >>= f).Follows (Checked deferral) := by
  refine within.follows_bind (fun op result rest blind => ?_) rest
  cases op <;> first | exact absurd trivial blind | trivial

theorem unqueued_then {α β : Type} {p : Async α} {f : α → Async β} (within : p.Within Op.Unqueued)
    (rest : ∀ value, ¬MayQueue deferral (f value)) : ¬MayQueue deferral (p >>= f) :=
  not_reaches_bind (unqueued_of_within deferral within) rest

theorem looks_unqueued {α : Type} {op : Op} {f : op.Result → Async α} (looks : op.checks) :
    ¬MayQueue deferral (act op >>= f) := by
  rintro (here | ⟨passed, -⟩)
  · cases op <;> first | exact here | exact looks
  · exact passed looks

theorem drainDeferred_unqueued : ¬MayQueue deferral (drainDeferred config) :=
  looks_unqueued deferral trivial

theorem drainDeferred_checked : (drainDeferred config).Follows (Checked deferral) := by
  have queued : ∀ op : Op, (∃ command, op = .enqueue command ∧ deferredCommand command) → ¬op.checks := by
    rintro op ⟨command, rfl, -⟩
    exact id
  refine fun armed => ⟨?_, checked_of_blind deferral ?_⟩
  · rintro queues rfl
    exact queues
  · exact ((applyDeferred_within config armed.2).mono queued).bind fun _ =>
      (resetDeferred_within armed.1).mono queued

theorem stopTransaction_unqueued (tid meterStop : Int) (reason : Reason) :
    ¬MayQueue deferral (stopTransaction config tid meterStop reason) := by
  refine unqueued_then deferral (within_act trivial) fun found => ?_
  cases found with
  | none => exact id
  | some connectorId =>
      have closed := closeTransaction_within config connectorId tid meterStop reason
      refine unqueued_then deferral (closed.mono fun op inside => ?_) fun _ => ?_
      · cases op <;> trivial
      refine unqueued_then deferral (within_sendStatusNotification trivial) fun _ => ?_
      refine unqueued_then deferral (within_act trivial) fun _ => ?_
      refine unqueued_then deferral (within_act trivial) fun _ => ?_
      refine unqueued_then deferral (within_onlyIf (within_act trivial)) fun _ => ?_
      exact unqueued_then deferral (within_sendStatusNotification trivial) fun _ =>
        drainDeferred_unqueued config deferral

theorem stopTransaction_checked (tid meterStop : Int) (reason : Reason) :
    (stopTransaction config tid meterStop reason).Follows (Checked deferral) := by
  refine blind_then deferral (within_act id) fun found => ?_
  cases found with
  | none => trivial
  | some connectorId =>
      have closed := closeTransaction_within config connectorId tid meterStop reason
      refine blind_then deferral (closed.mono fun op inside => ?_) fun _ => ?_
      · cases op <;> first | exact id | exact inside.elim
      refine blind_then deferral (within_sendStatusNotification id) fun _ => ?_
      refine blind_then deferral (within_act id) fun _ => ?_
      refine blind_then deferral (within_act id) fun _ => ?_
      refine blind_then deferral (within_onlyIf (within_act id)) fun _ => ?_
      exact blind_then deferral (within_sendStatusNotification id) fun _ =>
        drainDeferred_checked config deferral

theorem performReset_unqueued (resetType : ResetType) :
    ¬MayQueue deferral (performReset config resetType) := by
  refine unqueued_then deferral (within_act trivial) fun _ => ?_
  refine unqueued_then deferral (within_act trivial) fun active => ?_
  refine not_reaches_bind (not_reaches_forM (fun target => ?_) _) fun _ => ?_
  · exact not_reaches_bind (not_reaches_attempt (stopTransaction_unqueued config deferral target.1 0 _))
      fun _ => id
  · exact unqueued_of_within deferral (within_act trivial)

theorem performReset_checked (resetType : ResetType) :
    (performReset config resetType).Follows (Checked deferral) := by
  refine blind_then deferral (within_act id) fun _ => ?_
  refine blind_then deferral (within_act id) fun active => ?_
  have drained : ∀ _ : PUnit, ¬MayQueue deferral (act .drainSamplers) :=
    fun _ => unqueued_of_within deferral (within_act trivial)
  refine Follows.bind (fun _ _ _ => Checked.bind deferral drained) (Follows.forM ?_ (fun target => ?_) _)
    fun _ => checked_of_blind deferral (within_act id)
  · refine fun _ _ _ later => Checked.bind deferral fun _ => not_reaches_forM (fun target => ?_) later
    exact not_reaches_bind (not_reaches_attempt (stopTransaction_unqueued config deferral target.1 0 _))
      fun _ => id
  · have stopped := stopTransaction_checked config deferral target.1 0
    exact Follows.bind (fun _ _ _ => Checked.bind deferral fun _ => id)
      ((stopped _).attempt fun _ _ _ => Checked.attempt deferral) fun _ => trivial

theorem clear_of_isEmpty {active : HashMap Int Nat} (empty : active.entries.isEmpty) :
    deferral.Clear active := by
  intro tid connectorId found
  rw [AList.ext (List.isEmpty_iff.mp empty) (t := ∅)] at found
  cases found

theorem looks_then {α : Type} {op : Op} {f : op.Result → Async α}
    (checked : ∀ result, Checked deferral op result (f result))
    (rest : ∀ result, (f result).Follows (Checked deferral)) :
    (act op >>= f).Follows (Checked deferral) :=
  fun result => ⟨checked result, rest result⟩

theorem v201Reset_unqueued (kind : ResetEnumType) : ¬MayQueue deferral (v201Reset kind) :=
  looks_unqueued deferral trivial

theorem v201Reset_checked (kind : ResetEnumType) :
    (v201Reset kind).Follows (Checked deferral) := by
  refine looks_then deferral (fun active queues => ?_) fun active => checked_of_blind deferral ?_
  · cases empty : active.entries.isEmpty with
    | true => exact clear_of_isEmpty deferral empty
    | false =>
        refine absurd queues ?_
        cases kind with
        | immediate =>
            rintro (here | ⟨-, -, ⟨⟩⟩)
            cases deferral with
            | reset => cases here
            | apply connectorId => obtain ⟨_, _, other⟩ := here; cases other
        | onIdle =>
            rw [empty]
            exact unqueued_then deferral (within_act trivial) fun _ => id
  · split
    · exact (within_act id).bind fun _ => trivial
    · exact (within_act id).bind fun _ => trivial
    · trivial

theorem v201ChangeAvailability_unqueued (evseId : Option Int) (target : OperationalStatusEnumType) :
    ¬MayQueue deferral (v201ChangeAvailability config evseId target) := by
  unfold v201ChangeAvailability
  dsimp only
  split_ifs
  · exact id
  · exact looks_unqueued deferral trivial

theorem target_of_queued {targets : List Nat} {target : OperationalStatusEnumType}
    (queues : MayQueue deferral (targets.forM fun connectorId =>
      act (.enqueue (.v201ApplyAvailability connectorId target none)) : Async PUnit)) :
    ∃ connectorId ∈ targets, deferral = .apply connectorId := by
  induction targets with
  | nil => exact queues.elim
  | cons first others ih =>
      rcases queues with here | ⟨-, _, later⟩
      · cases deferral with
        | reset => cases here
        | apply connectorId =>
            obtain ⟨_, _, same⟩ := here
            cases same
            exact ⟨first, List.mem_cons_self, rfl⟩
      · obtain ⟨connectorId, mem, concerned⟩ := ih later
        exact ⟨connectorId, List.mem_cons_of_mem _ mem, concerned⟩

theorem v201ChangeAvailability_checked (evseId : Option Int) (target : OperationalStatusEnumType) :
    (v201ChangeAvailability config evseId target).Follows (Checked deferral) := by
  unfold v201ChangeAvailability
  dsimp only
  split_ifs
  · trivial
  · refine looks_then deferral (fun active queues => ?_) fun active => checked_of_blind deferral ?_
    · split at queues
      case h_1 accepted =>
        simp only [v201ChangeAvailabilityStatus, ite_eq_right_iff, reduceCtorEq, imp_false,
          Bool.not_eq_true] at accepted
        obtain ⟨connectorId, mem, rfl⟩ : ∃ connectorId ∈ changeAvailabilityTargets config evseId,
            deferral = .apply connectorId := by
          by_contra untargeted
          exact not_reaches_bind (fun queued => untargeted (target_of_queued deferral queued))
            (fun _ => id) queues
        cases evseId with
        | none => exact clear_of_isEmpty _ (by simpa using accepted)
        | some evse =>
            rintro tid connectorId' found rfl
            have busy := List.any_eq_false.mp accepted ⟨tid, connectorId'⟩ (AList.mem_lookup_iff.mp found)
            exact busy (by simpa using mem)
      case h_2 => exact absurd queues (unqueued_then deferral (within_act trivial) fun _ => id)
      case h_3 => exact queues.elim
    · split
      · exact (Within.forM (fun _ => within_act id) _).bind fun _ => trivial
      · exact (within_act id).bind fun _ => trivial
      · trivial

def Call.QueuesDeferred : Call → Prop
  | v16jReset _ => True
  | call => call.Arms ∨ call.Stops

theorem Call.unqueued {call : Call} (others : ¬call.QueuesDeferred) {op : Op} (performed : call.ops op) :
    op.Unqueued := by
  cases op
  case enqueue queued =>
    cases queued
    case reset | v201ApplyAvailability =>
      exfalso
      cases call with
      | v16jReset => exact others trivial
      | v201Reset | v201ChangeAvailability => exact others (Or.inl trivial)
      | stopTransaction => exact others (Or.inr trivial)
      | command queued =>
          cases queued with
          | stopTransaction | reset => exact others (Or.inr trivial)
          | _ => simp [Call.ops, RemoteCommand.ops, startOps, reportOps, applyOps] at performed
      | _ => simp [Call.ops, startOps, plugOps, driveOps, reportOps, requestOps, reserveOps, releaseOps,
          profileOps, requestedCommand, reportCommand] at performed
    all_goals trivial
  all_goals trivial

theorem Call.run_checked {call : Call} (version : ∀ resetType, call ≠ .v16jReset resetType) :
    ¬MayQueue deferral (call.run config rfc) ∧ (call.run config rfc).Follows (Checked deferral) := by
  by_cases queues : call.QueuesDeferred
  · cases call with
    | v16jReset resetType => exact absurd rfl (version resetType)
    | v201Reset kind =>
        exact ⟨not_reaches_bind (v201Reset_unqueued deferral kind) fun _ => id,
          Follows.bind (fun _ _ _ => Checked.bind deferral fun _ => id) (v201Reset_checked deferral kind)
            fun _ => trivial⟩
    | v201ChangeAvailability evseId target =>
        exact ⟨not_reaches_bind (v201ChangeAvailability_unqueued config deferral evseId target) fun _ => id,
          Follows.bind (fun _ _ _ => Checked.bind deferral fun _ => id)
            (v201ChangeAvailability_checked config deferral evseId target) fun _ => trivial⟩
    | stopTransaction tid meterStop reason =>
        exact ⟨stopTransaction_unqueued config deferral tid meterStop reason,
          stopTransaction_checked config deferral tid meterStop reason⟩
    | command queued =>
        cases queued with
        | stopTransaction tid =>
            exact ⟨stopTransaction_unqueued config deferral tid 0 .remote,
              stopTransaction_checked config deferral tid 0 .remote⟩
        | reset resetType =>
            exact ⟨performReset_unqueued config deferral resetType,
              performReset_checked config deferral resetType⟩
        | _ => exact queues.elim False.elim False.elim
    | _ => exact queues.elim False.elim False.elim
  · have within := (call.run_within config rfc).mono fun _ => Call.unqueued queues
    exact ⟨unqueued_of_within deferral within, checked_of_within deferral within⟩

end Programs

/-! ## Steps -/

def ListsNone : (op : Op) → op.Result → Prop
  | .listActive, active => active = []
  | _, _ => True

theorem performReset_endsNone (resetType : ResetType) :
    (performReset config resetType).WithinFor (fun op => ¬op.EndsTransaction) ListsNone := by
  refine ⟨id, fun _ _ => ⟨id, fun active none => ?_⟩⟩
  obtain rfl : active = [] := none
  exact ⟨id, fun _ _ => trivial⟩

structure Undisturbed (system : System) : Prop where
  within : system.Each fun call p => p.Within call.ops
  checked : ∀ deferral, system.Each fun _ p => p.Follows (Checked deferral)
  clear : ∀ deferral, system.Coming deferral → deferral.Clear system.shared.activeTransactions
  resets : ∀ task p, system.tasks task = some (.command (.reset .soft), p) →
    p.WithinFor (fun op => ¬op.EndsTransaction) ListsNone

theorem clear_of_checked {deferral : Deferral} {s t : Station} {op : Op} {choice : Choice}
    {result : op.Result} {rest : Async Unit} (looks : op.checks)
    (performed : exec s op choice = some (result, t)) (checked : Checked deferral op result rest)
    (queues : MayQueue deferral rest) : deferral.Clear t.activeTransactions := by
  cases op
  case readActive =>
    cases performed
    exact checked queues
  case takeIfIdle =>
    simp only [exec, Option.some.injEq] at performed
    split_ifs at performed with idle
    · cases performed
      exact clear_of_isEmpty deferral idle
    · cases performed
      exact absurd rfl (checked queues)
  all_goals exact looks.elim

theorem modern_of_started {s s' : Station} {task : Nat} {call : Call} {p : Async Unit}
    (modern : config.protocolVersion = .v201) (started : call.start config rfc s task = some (p, s'))
    (resetType : ResetType) : call ≠ .v16jReset resetType := by
  rintro rfl
  simp [Call.start, Call.version, modern] at started

theorem coming_spawn {system system' : System} {task : Nat} {call : Call} {deferral : Deferral}
    (modern : config.protocolVersion = .v201)
    (stepped : system.step config rfc (.spawn task call) = some system')
    (coming : system'.Coming deferral) : system.Coming deferral := by
  obtain ⟨p, s, -, started, rfl⟩ := Pool.step_spawn stepped
  obtain ⟨rfl, -⟩ := Call.start_shared started
  obtain ⟨kept, first⟩ := Call.start_commands started
  cases coming with
  | checked task' here =>
      obtain ⟨call', p', running, queues⟩ := here
      rcases Pool.task_of_update running with ⟨-, rfl, rfl⟩ | ⟨-, before⟩
      · have modern' := modern_of_started config rfc modern started
        exact absurd queues (Call.run_checked config rfc deferral modern').1
      · exact .checked task' ⟨call', p', before, queues⟩
  | queued command mem deferred => exact .queued command (kept command mem) deferred
  | begun task' command p' deferred running ahead =>
      rcases Pool.task_of_update running with ⟨-, same, -⟩ | ⟨-, before⟩
      · exact .queued command (first command same.symm) deferred
      · exact .begun task' command p' deferred before ahead

theorem coming_drop {system system' : System} {task : Nat} {deferral : Deferral}
    (stepped : system.step config rfc (.drop task) = some system') (coming : system'.Coming deferral) :
    system.Coming deferral := by
  obtain ⟨call, p, -, -, rfl⟩ := Pool.step_drop stepped
  cases coming with
  | checked task' here =>
      obtain ⟨call', p', running, queues⟩ := here
      exact .checked task' ⟨call', p', (Pool.task_of_drop running).2, queues⟩
  | queued command mem deferred => exact .queued command mem deferred
  | begun task' command p' deferred running ahead =>
      exact .begun task' command p' deferred (Pool.task_of_drop running).2 ahead

theorem coming_advance {system system' : System} {task : Nat} {choice : Choice} {deferral : Deferral}
    (checked : system.Each fun _ p => p.Follows (Checked deferral))
    (stepped : system.step config rfc (.advance task choice) = some system')
    (coming : system'.Coming deferral) :
    system.Coming deferral ∨ deferral.Clear system'.shared.activeTransactions := by
  obtain ⟨call, op, next, result, s, running, performed, rfl⟩ := Pool.step_advance stepped
  cases coming with
  | checked task' here =>
      obtain ⟨call', p', after, queues⟩ := here
      rcases Pool.task_of_update after with ⟨rfl, rfl, rfl⟩ | ⟨-, before⟩
      · by_cases looks : op.checks
        · exact Or.inr (clear_of_checked looks performed (checked task' call' _ running result).1 queues)
        · exact Or.inl (.checked task' ⟨call', _, running, Reaches.of_next looks queues⟩)
      · exact Or.inl (.checked task' ⟨call', p', before, queues⟩)
  | queued command mem deferred =>
      have effect := exec_effect performed
      subst effect
      rcases Op.effect_commands mem with before | rfl
      · exact Or.inl (.queued command before deferred)
      · exact Or.inl (.checked task ⟨call, _, running, Or.inl deferred⟩)
  | begun task' command p' deferred after ahead =>
      rcases Pool.task_of_update after with ⟨rfl, rfl, rfl⟩ | ⟨-, before⟩
      · exact Or.inl (.begun task' command _ deferred running (Reaches.of_next id ahead))
      · exact Or.inl (.begun task' command p' deferred before ahead)

theorem clear_advance {system system' : System} {task : Nat} {choice : Choice} {deferral : Deferral}
    (records : RecordsClear system (.advance task choice))
    (stepped : system.step config rfc (.advance task choice) = some system')
    (clear : deferral.Clear system.shared.activeTransactions) (coming : system.Coming deferral) :
    deferral.Clear system'.shared.activeTransactions := by
  obtain ⟨call, op, next, result, s, running, performed, rfl⟩ := Pool.step_advance stepped
  have effect := exec_effect performed
  subst effect
  intro tid connectorId found
  rw [Op.effect_activeTransactions] at found
  rcases lookup_onActive found with before | rfl
  · exact clear tid connectorId before
  · intro concerned
    exact records call tid connectorId (by simp [Pool.pending, running]) deferral concerned coming

theorem orders_nil {active : HashMap Int Nat} {entries : List (Int × Nat)}
    (ordered : Station.orders entries active) (empty : Deferral.reset.Clear active) : entries = [] := by
  have none : active.entries = [] := by
    by_contra some
    obtain ⟨⟨tid, connectorId⟩, mem⟩ := List.exists_mem_of_ne_nil _ some
    exact empty tid connectorId (AList.mem_lookup_iff.mpr mem) trivial
  have perm := List.isPerm_iff.mp ordered
  rw [none] at perm
  exact perm.eq_nil

theorem listsNone_of_coming {system : System} {task : Nat} {op : Op} {next : op.Result → Async Unit}
    {choice : Choice} {result : op.Result} {t : Station}
    (clear : ∀ deferral, system.Coming deferral → deferral.Clear system.shared.activeTransactions)
    (running : system.tasks task = some (.command (.reset .soft), .perform op next))
    (performed : exec system.shared op choice = some (result, t)) : ListsNone op result := by
  cases op
  case listActive =>
    have coming : system.Coming .reset := .begun task (.reset .soft) _ rfl running (Or.inl rfl)
    cases choice <;> simp only [exec, Option.ite_none_right_eq_some] at performed
    case order entries =>
      cases performed.2
      exact orders_nil performed.1 (clear .reset coming)
    all_goals cases performed
  all_goals trivial

theorem undisturbed_step {system system' : System} {action : Action}
    (modern : config.protocolVersion = .v201) (inv : Undisturbed system)
    (records : RecordsClear system action) (stepped : system.step config rfc action = some system') :
    Undisturbed system' where
  within := within_step config inv.within stepped
  checked deferral := by
    refine Pool.each_step ?_ (fun _ _ _ result follows => (follows result).2) (inv.checked deferral) stepped
    intro s task call p s' started
    rw [(Call.start_shared started).1]
    exact (Call.run_checked config rfc deferral (modern_of_started config rfc modern started)).2
  clear deferral coming := by
    cases action with
    | spawn task call =>
        have before := coming_spawn config rfc modern stepped coming
        obtain ⟨p, s, -, started, rfl⟩ := Pool.step_spawn stepped
        obtain ⟨-, commands, timers, rfl⟩ := Call.start_shared started
        exact inv.clear deferral before
    | drop task =>
        have before := coming_drop config rfc stepped coming
        obtain ⟨call, p, -, -, rfl⟩ := Pool.step_drop stepped
        exact inv.clear deferral before
    | advance task choice =>
        rcases coming_advance config rfc (inv.checked deferral) stepped coming with before | clear
        · exact clear_advance config rfc records stepped (inv.clear deferral before) before
        · exact clear
  resets task' p' found := by
    cases action with
    | spawn task call =>
        obtain ⟨p, s, -, started, rfl⟩ := Pool.step_spawn stepped
        obtain ⟨rfl, -⟩ := Call.start_shared started
        rcases Pool.task_of_update found with ⟨-, rfl, rfl⟩ | ⟨-, before⟩
        · exact performReset_endsNone config .soft
        · exact inv.resets task' p' before
    | drop task =>
        obtain ⟨call, p, -, -, rfl⟩ := Pool.step_drop stepped
        exact inv.resets task' p' (Pool.task_of_drop found).2
    | advance task choice =>
        obtain ⟨call, op, next, result, s, running, performed, rfl⟩ := Pool.step_advance stepped
        rcases Pool.task_of_update found with ⟨rfl, rfl, rfl⟩ | ⟨-, before⟩
        · exact (inv.resets task' _ running).2 result (listsNone_of_coming inv.clear running performed)
        · exact inv.resets task' p' before

theorem undisturbed_new : Undisturbed System.new where
  within := fun _ _ _ running => nomatch running
  checked := fun _ _ _ _ running => nomatch running
  clear := fun _ _ _ _ found => nomatch found
  resets := fun _ _ running => nomatch running

/-- In every run of a 2.0.1 station that records transactions only where nothing deferred is coming, Soft
resets and availability changes leave live sessions alone. -/
theorem deferred_never_interrupts {actions : List Action} (modern : config.protocolVersion = .v201)
    (along : Along (System.step config rfc) RecordsClear System.new actions) :
    Along (System.step config rfc) NeverInterrupts System.new actions := by
  refine along.of_invariant (fun _ _ _ => undisturbed_step config rfc modern) ?_ undisturbed_new
  intro system action inv _
  cases action with
  | spawn task call => trivial
  | drop task => trivial
  | advance task choice =>
      refine ⟨fun op pending => ?_, fun connectorId target scheduled connectorId' status pending tid => ?_⟩
      · obtain ⟨next, running⟩ := Pool.pending_eq_some pending
        exact (inv.resets task _ running).1
      · obtain ⟨next, running⟩ := Pool.pending_eq_some pending
        obtain rfl : connectorId' = connectorId := (inv.within task _ _ running).1
        have coming : system.Coming (.apply connectorId') :=
          .begun task _ _ ⟨target, scheduled, rfl⟩ running (Or.inl ⟨status, rfl⟩)
        exact fun found => inv.clear _ coming tid connectorId' found rfl

/-! ## A reset that meets a session -/

/-- A transaction during which a reset and an availability change are scheduled, its stop, and the
consumer at work on what the stop has queued. -/
def consumedSession : List Action :=
  deferringSession (answered 0) ++ drive 1 [.none, .none, .none] ++
    .spawn 0 (.command (.v201ApplyAvailability 1 .inoperative (some 0))) :: drive 0 [.none, answered 0] ++
      .spawn 0 (.command (.reset .soft)) :: drive 0 [.none, .order [], .none]

/-- Of tasks 0 to 2 only one that starts a transaction records one, and only while it is alone. -/
def recordsAlone (system : System) (action : Action) : Bool :=
  action.task ≤ 2 &&
    match system.pending action.task with
    | some (.startTransaction .., .insertActive ..) => system.shared.commands.isEmpty &&
        (List.range 3).all fun task => task = action.task || (system.tasks task).isNone
    | some (_, .insertActive ..) => false
    | _ => true

theorem recordsClear_of_alone {system : System} {action : Action}
    (three : ∀ task, 2 < task → system.tasks task = none)
    (within : system.Each fun call p => p.Within call.ops) (checked : recordsAlone system action) :
    RecordsClear system action := by
  cases action with
  | spawn task call => trivial
  | drop task => trivial
  | advance task choice =>
      intro call tid connectorId pending deferral _ coming
      obtain ⟨next, recording⟩ := Pool.pending_eq_some pending
      have allowed := ((Bool.and_eq_true _ _).mp checked).2
      simp only [PoolAction.task, pending] at allowed
      cases call with
      | startTransaction target idTag meterStart =>
          simp only [Bool.and_eq_true, List.isEmpty_iff, List.all_eq_true, List.mem_range,
            Bool.or_eq_true, Option.isNone_iff_eq_none] at allowed
          have alone : ∀ task', task' ≠ task → system.tasks task' = none := by
            intro task' other
            rcases Nat.lt_or_ge 2 task' with above | below
            · exact three task' above
            · exact (allowed.2 task' (by omega)).resolve_left fun same =>
                other (of_decide_eq_true same)
          cases coming with
          | checked task' here =>
              obtain ⟨call', p', running, queues⟩ := here
              by_cases same : task' = task
              · subst same
                rw [recording] at running
                cases running
                have others : ¬(Call.startTransaction target idTag meterStart).QueuesDeferred :=
                  fun queues => queues.elim id id
                exact unqueued_of_within deferral
                  ((within task' _ _ recording).mono fun _ => Call.unqueued others) queues
              · rw [alone task' same] at running
                cases running
          | queued command mem deferred =>
              rw [allowed.1] at mem
              cases mem
          | begun task' command p' deferred running ahead =>
              by_cases same : task' = task
              · subst same
                rw [recording] at running
                cases running
              · rw [alone task' same] at running
                cases running
      | _ => exact absurd allowed (by simp)

theorem deferred_work_undisturbing :
    ∃ system, run (System.step (simulator .v201) noDates) System.new consumedSession = some system ∧
      system.shared.status 1 = .unavailable ∧ system.shared.commands = [] ∧
      Along (System.step (simulator .v201) noDates) NeverInterrupts System.new consumedSession := by
  have reached : (run (System.step (simulator .v201) noDates) System.new consumedSession).map
      (fun system => (system.shared.status 1, system.shared.commands)) = some (.unavailable, []) := rfl
  obtain ⟨system, ran, found⟩ := Option.map_eq_some_iff.mp reached
  obtain ⟨status, queue⟩ := Prod.mk.inj found
  refine ⟨system, ran, status, queue, deferred_never_interrupts (simulator .v201) noDates rfl ?_⟩
  refine Along.of_check (fun system => (∀ task, 2 < task → system.tasks task = none) ∧
    system.Each fun call p => p.Within call.ops) recordsAlone
    (fun _ _ inv => recordsClear_of_alone inv.1 inv.2) ?_
    ⟨fun _ _ => rfl, fun _ _ _ running => nomatch running⟩ rfl
  intro system action system' inv checked stepped
  refine ⟨fun task above => ?_, within_step (simulator .v201) inv.2 stepped⟩
  have mine := of_decide_eq_true ((Bool.and_eq_true _ _).mp checked).1
  rw [Pool.step_other stepped (by omega), inv.1 task above]

/-- A reset accepted while idle, a transaction started before the consumer gets to it, and the reset up
to the removal of that transaction. -/
def overtakenReset : List Action :=
  .spawn 2 (.v201Reset .onIdle) :: drive 2 [.none, .none] ++ startSession 1 1 ++
    .spawn 0 (.command (.reset .soft)) :: drive 0 ([.none, .order [(1, 1)]] ++ List.replicate 5 .none ++
      [answered 0, answered 0, .none])

theorem overtaken_reset_interrupts :
    ¬Along (System.step (simulator .v201) noDates) NeverInterrupts System.new
      (overtakenReset ++ [.advance 0 .none]) := by
  intro along
  have reached : (run (System.step (simulator .v201) noDates) System.new overtakenReset).map
      (fun system => (system.pending 0, system.shared.activeTransactions.lookup 1)) =
        some (some (.command (.reset .soft), .removeActive 1), some 1) := rfl
  obtain ⟨system, ran, found⟩ := Option.map_eq_some_iff.mp reached
  exact (along.after ran).1 _ (Prod.mk.inj found).1 trivial

end Ocpp.ChargePoint
