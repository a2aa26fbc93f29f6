import Ocpp.ChargePoint.Effects

/-!
# Deferred commands

A Reset or ChangeAvailability that finds a transaction running is armed in a slot, and the stop that leaves
the station idle queues what is armed. Nothing armed is forgotten as long as some stop is still to look at
the slots when a request is armed or a CALL of a stop fails, and no request takes the slot from a
connector that waits for it.
-/

namespace Ocpp.ChargePoint
open Library Library.Program V16j V201

variable (config : Config) (rfc : Rfc3339)

/-! ## What a stop will still do -/

def Answered : (op : Op) → op.Result → Prop
  | .call _, answer => answer.isOk
  | _, _ => True

/-- A stop begins by looking up its transaction. -/
def Op.looksUp : Op → Prop
  | getActive _ => True
  | _ => False

/-- Unless one of its CALLs fails, the program looks at the slots, and does not begin another stop before
it does. -/
def Drains {α : Type} (p : Async α) : Prop :=
  p.Inevitable (· = .takeIfIdle) Op.looksUp Answered

def Op.Applies (connectorId number : Nat) : Op → Prop
  | enqueue (.v201ApplyAvailability target _ scheduled) =>
      target = connectorId ∧ scheduled = some number
  | _ => False

/-- The program queues the numbered availability change of the connector, and does not begin another stop
before it does. -/
def Applies {α : Type} (connectorId number : Nat) (p : Async α) : Prop :=
  p.Inevitable (Op.Applies connectorId number) Op.looksUp fun _ _ => True

def Call.Stops : Call → Prop
  | stopTransaction .. | command (.stopTransaction _) | command (.reset _) => True
  | _ => False

def Call.Arms : Call → Prop
  | v201Reset _ | v201ChangeAvailability .. => True
  | _ => False

/-- The program is in the middle of a stop: it may look at the slots or queue what it found there
before it begins another one. -/
def Stopping (p : Async Unit) : Prop :=
  p.Reaches (fun op => op = .takeIfIdle ∨ ∃ connectorId number, op.Applies connectorId number) Op.looksUp

/-! ## Nothing lost, and when -/

structure Settled (s : Station) : Prop where
  reset : s.pendingV201Reset = none
  availability : s.pendingV201Availability = none
  due : ∀ connectorId ∈ config.connectors, s.due connectorId = none

/-- While no transaction is active and no handler that arms a slot and no stop is in progress, nothing is
deferred. -/
def NothingLost (system : System) : Prop :=
  system.shared.idle → (system.Each fun call p => ¬call.Arms ∧ ¬(call.Stops ∧ Stopping p)) →
    Settled config system.shared

def System.WillDrain (system : System) : Prop :=
  ¬system.shared.idle ∨ ∃ task, system.At Drains task

def Station.SlotArmed (s : Station) : Prop :=
  s.pendingV201Reset.isSome ∨ s.pendingV201Availability.isSome

/-- A slot is armed only while a transaction is active or a stop is still to look at it; an availability
change replaces one that no connector outside its own scope waits for; and a CALL of a stop that is still
to look at the slots fails only while they are empty, a transaction is active, or another stop is still to
look at them. -/
def Op.DefersSafely (system : System) (task : Nat) : Op → Choice → Prop
  | armReset _, _ => system.WillDrain
  | armAvailability evseId _, _ => system.WillDrain ∧
      ∀ armed ∈ system.shared.pendingV201Availability, ∀ connectorId ∈ config.connectors,
        system.shared.due connectorId = some armed.number → ∀ evse ∈ evseId, evse = (connectorId : Int)
  | call _, .answer answer => answer.Fails → system.At Drains task → system.shared.SlotArmed →
      ¬system.shared.idle ∨ ∃ task', task' ≠ task ∧ system.At Drains task'
  | _, _ => True

def DefersSafely (system : System) : Action → Prop
  | .advance task choice => ∀ call op, system.pending task = some (call, op) →
      op.DefersSafely config system task choice
  | _ => True

/-! ## Stops drain -/

/-- After a transaction is removed the slots are looked at, and what is found in them is queued. -/
def Drained {α : Type} : (op : Op) → op.Result → Async α → Prop
  | .removeActive _, _, rest => Drains rest
  | .takeIfIdle, (_, armed), rest => ∀ pending ∈ armed, ∀ connectorId ∈ config.connectors,
      pending.Covers connectorId → Applies connectorId pending.number rest
  | _, _, _ => True

theorem Drained.bind {α β : Type} {op : Op} {result : op.Result} {rest : Async α} {f : α → Async β}
    (drained : Drained config op result rest) : Drained config op result (rest >>= f) := by
  cases op
  case removeActive => exact Inevitable.bind drained
  case takeIfIdle =>
    exact fun pending armed connectorId known covered =>
      Inevitable.bind (drained pending armed connectorId known covered)
  all_goals trivial

theorem Drained.attempt {α : Type} {op : Op} {result : op.Result} {rest : Async α}
    (drained : Drained config op result rest) :
    Drained config op result (rest.attempt : Async (Except OcppError α)) := by
  cases op
  case removeActive => exact Inevitable.attempt drained
  case takeIfIdle =>
    exact fun pending armed connectorId known covered =>
      Inevitable.attempt (drained pending armed connectorId known covered)
  all_goals trivial

def Op.Undrained : Op → Prop
  | removeActive _ | takeIfIdle => False
  | _ => True

theorem Op.Undrained.drained {α : Type} {op : Op} (undrained : op.Undrained) (result : op.Result)
    (rest : Async α) : Drained config op result rest := by
  cases op <;> first | exact undrained.elim | trivial

theorem undrained_then {α β : Type} {p : Async α} {f : α → Async β} (within : p.Within Op.Undrained)
    (rest : ∀ value, (f value).Follows (Drained config)) : (p >>= f).Follows (Drained config) :=
  within.follows_bind (fun _ result rest undrained => undrained.drained config result rest) rest

theorem undrained_follows {α : Type} {p : Async α} (within : p.Within Op.Undrained) :
    p.Follows (Drained config) :=
  within.follows fun _ result rest undrained _ => undrained.drained config result rest

theorem removed_then {α : Type} {transactionId : Int} {f : Unit → Async α} (drains : Drains (f ()))
    (rest : (f ()).Follows (Drained config)) :
    (act (.removeActive transactionId) >>= f).Follows (Drained config) :=
  fun _ => ⟨drains, rest⟩

theorem drains_onlyIf {α : Type} {condition : Bool} {connectorId : Nat} {status : ChargePointStatus}
    {f : Unit → Async α} (rest : Drains (f ())) :
    Drains (onlyIf condition (act (.setStatus connectorId status)) >>= f) := by
  cases condition with
  | false => exact rest
  | true => exact Or.inr ⟨id, fun _ _ => rest⟩

theorem drains_sendStatusNotification {α : Type} {connectorId : Nat} {status : ChargePointStatus}
    {f : Unit → Async α} (rest : Drains (f ())) :
    Drains (sendStatusNotification connectorId status >>= f) := by
  refine Or.inr ⟨id, fun answer answered => ?_⟩
  cases answer with
  | error error => exact absurd answered (by simp [Answered, Except.isOk, Except.toBool])
  | ok response => exact rest

theorem drains_drainDeferred : Drains (drainDeferred config) :=
  Or.inl rfl

theorem applies_forM {connectorId : Nat} {target : OperationalStatusEnumType} {number : Nat}
    {targets : List Nat} (targeted : connectorId ∈ targets) :
    Applies connectorId number (targets.forM fun target' =>
      act (.enqueue (.v201ApplyAvailability target' target (some number))) : Async PUnit) := by
  induction targets with
  | nil => cases targeted
  | cons first others ih =>
      rcases List.mem_cons.mp targeted with rfl | later
      · exact Or.inl ⟨rfl, rfl⟩
      · exact Or.inr ⟨id, fun _ _ => ih later⟩

theorem mem_deferredTargets {pending : PendingAvailability} {connectorId : Nat}
    (known : connectorId ∈ config.connectors) (covered : pending.Covers connectorId) :
    connectorId ∈ deferredTargets config pending.evseId := by
  obtain ⟨evseId, target, number⟩ := pending
  cases evseId with
  | none => exact known
  | some id =>
      obtain rfl : id = connectorId := covered id rfl
      have positive := config.positive connectorId known
      simp [deferredTargets, connectorOf]
      omega

theorem drainDeferred_follows : (drainDeferred config).Follows (Drained config) := by
  intro armed
  have queued : ∀ op : Op, (∃ command, op = .enqueue command ∧ deferredCommand command) →
      op.Undrained := by
    rintro op ⟨command, rfl, -⟩
    trivial
  refine ⟨fun pending found connectorId known covered => ?_, undrained_follows config ?_⟩
  · change (applyDeferred config armed.2 >>= fun _ => resetDeferred armed.1).Inevitable _ _ _
    rw [Option.mem_def.mp found]
    exact Inevitable.bind (applies_forM (mem_deferredTargets config known covered))
  · exact ((applyDeferred_within config armed.2).mono queued).bind fun _ =>
      (resetDeferred_within armed.1).mono queued

theorem stopTransaction_follows (transactionId meterStop : Int) (reason : Reason) :
    (stopTransaction config transactionId meterStop reason).Follows (Drained config) := by
  refine undrained_then config (within_act trivial) fun found => ?_
  cases found with
  | none => trivial
  | some connectorId =>
      have closed := closeTransaction_within config connectorId transactionId meterStop reason
      refine undrained_then config (closed.mono fun op inside => ?_) fun _ => ?_
      · cases op <;> trivial
      refine undrained_then config (within_sendStatusNotification trivial) fun _ => ?_
      refine undrained_then config (within_act trivial) fun _ => ?_
      refine removed_then config ?_ ?_
      · refine drains_onlyIf ?_
        exact drains_sendStatusNotification (drains_drainDeferred config)
      · refine undrained_then config (within_onlyIf (within_act trivial)) fun _ => ?_
        exact undrained_then config (within_sendStatusNotification trivial) fun _ =>
          drainDeferred_follows config

theorem performReset_follows (resetType : ResetType) :
    (performReset config resetType).Follows (Drained config) := by
  refine undrained_then config (within_act trivial) fun _ => ?_
  refine undrained_then config (within_act trivial) fun active => ?_
  refine Follows.bind (fun _ _ _ => Drained.bind config) (Follows.forM ?_ (fun target => ?_) _) fun _ => ?_
  · exact fun _ _ _ _ => Drained.bind config
  · have stopped := stopTransaction_follows config target.1 0
    refine Follows.bind (fun _ _ _ => Drained.bind config)
      ((stopped _).attempt fun _ _ _ => Drained.attempt config) fun _ => trivial
  · exact undrained_follows config (within_act trivial)

theorem Call.undrained {call : Call} (others : ¬call.Stops) {op : Op} (performed : call.ops op) :
    op.Undrained ∧ ∀ connectorId number, ¬op.Applies connectorId number := by
  cases op
  case removeActive | takeIfIdle =>
    exfalso
    cases call with
    | stopTransaction => exact others trivial
    | command queued =>
        cases queued with
        | stopTransaction | reset => exact others trivial
        | _ => simp [Call.ops, RemoteCommand.ops, startOps, reportOps, applyOps] at performed
    | _ => simp [Call.ops, startOps, plugOps, driveOps, reportOps, requestOps, v201ResetOps,
        changeAvailabilityOps, reserveOps, releaseOps, profileOps] at performed
  case enqueue queued =>
    refine ⟨trivial, fun connectorId number applies => ?_⟩
    cases queued
    case v201ApplyAvailability target status scheduled =>
      obtain ⟨-, rfl⟩ := applies
      cases call with
      | stopTransaction => exact others trivial
      | command queued =>
          cases queued with
          | stopTransaction | reset => exact others trivial
          | _ => simp [Call.ops, RemoteCommand.ops, startOps, reportOps, applyOps] at performed
      | _ => simp [Call.ops, startOps, plugOps, driveOps, reportOps, requestOps, v201ResetOps,
          changeAvailabilityOps, reserveOps, releaseOps, profileOps, requestedCommand, reportCommand]
          at performed
    all_goals exact applies
  all_goals exact ⟨trivial, fun _ _ => id⟩

theorem Call.run_follows (call : Call) : (call.run config rfc).Follows (Drained config) := by
  by_cases stops : call.Stops
  · cases call with
    | stopTransaction transactionId meterStop reason =>
        exact stopTransaction_follows config transactionId meterStop reason
    | command queued =>
        cases queued with
        | stopTransaction transactionId => exact stopTransaction_follows config transactionId 0 .remote
        | reset resetType => exact performReset_follows config resetType
        | _ => exact stops.elim
    | _ => exact stops.elim
  · exact undrained_follows config ((call.run_within config rfc).mono fun _ inside =>
      (Call.undrained stops inside).1)

/-! ## Steps -/

/-- The connector waits for the armed change, or some task queues it. -/
def System.Awaits (system : System) (connectorId number : Nat) : Prop :=
  (∃ pending ∈ system.shared.pendingV201Availability, pending.number = number ∧
    pending.Covers connectorId) ∨ ∃ task, system.At (Applies connectorId number) task

structure Deferred (system : System) : Prop where
  drained : system.Each fun _ p => p.Follows (Drained config)
  within : system.Each fun call p => p.Within call.ops
  armed : system.shared.SlotArmed → system.WillDrain
  due : ∀ connectorId ∈ config.connectors, ∀ number, system.shared.due connectorId = some number →
    system.Awaits connectorId number

theorem answered_or_fails {s t : Station} {op : Op} {choice : Choice} {result : op.Result}
    (performed : exec s op choice = some (result, t)) :
    Answered op result ∨ ∃ request answer, op = .call request ∧ choice = .answer answer ∧ answer.Fails := by
  cases op
  case call request =>
    cases choice with
    | answer answer =>
        cases performed
        cases answer with
        | replied response => exact Or.inl rfl
        | refused error => exact Or.inr ⟨request, _, rfl, rfl, trivial⟩
        | failed error => exact Or.inr ⟨request, _, rfl, rfl, trivial⟩
    | _ => cases performed
  all_goals exact Or.inl trivial

theorem due_of_enqueue {s : Station} {queued : RemoteCommand} {connectorId number : Nat}
    (due : (s.enqueue queued).due connectorId = some number) :
    s.due connectorId = some number ∧ ¬(Op.enqueue queued).Applies connectorId number := by
  cases queued
  case v201ApplyAvailability target status scheduled =>
    simp only [Station.enqueue] at due
    split_ifs at due with settles
    · by_cases same : connectorId = target
      · simp [same] at due
      · rw [Function.update_of_ne same] at due
        exact ⟨due, fun applies => same applies.1.symm⟩
    · refine ⟨due, ?_⟩
      rintro ⟨rfl, rfl⟩
      exact settles (Or.inr due)
  all_goals exact ⟨due, id⟩

theorem covers_iff {evseId : Option Int} {connectorId : Nat} :
    evseId.all (· = (connectorId : Int)) ↔ ∀ evse ∈ evseId, evse = (connectorId : Int) := by
  cases evseId <;> simp

section Advance

variable {config} {system : System} {task : Nat} {call : Call} {op : Op} {next : op.Result → Async Unit}
  {result : op.Result} {t : Station} {choice : Choice}
  (running : system.tasks task = some (call, .perform op next))

include running in
theorem drains_advance {task' : Nat} (drains : system.At Drains task') (untaken : op ≠ .takeIfIdle)
    (answered : task' = task → Answered op result) :
    Pool.At Drains (⟨t, Function.update system.tasks task (Pool.live call (next result))⟩ : System) task' := by
  by_cases own : task' = task
  · subst own
    obtain ⟨call', p, here, drains⟩ := drains
    rw [running] at here
    cases here
    exact Pool.at_of_live ⟨fun _ => id, fun _ => id⟩ ((drains.resolve_left untaken).2 result (answered rfl))
  · exact Pool.at_other own drains

include running in
theorem applies_advance {task' connectorId number : Nat} (applies : system.At (Applies connectorId number) task')
    (unapplied : ¬op.Applies connectorId number) :
    Pool.At (Applies connectorId number)
      (⟨t, Function.update system.tasks task (Pool.live call (next result))⟩ : System) task' := by
  by_cases own : task' = task
  · subst own
    obtain ⟨call', p, here, applies⟩ := applies
    rw [running] at here
    cases here
    exact Pool.at_of_live ⟨fun _ => id, fun _ => id⟩ ((applies.resolve_left unapplied).2 result trivial)
  · exact Pool.at_other own applies

include running in
theorem willDrain_advance (active : t.activeTransactions = system.shared.activeTransactions)
    (untaken : op ≠ .takeIfIdle)
    (before : ¬system.shared.idle ∨ ∃ task', system.At Drains task' ∧ (task' = task → Answered op result)) :
    System.WillDrain ⟨t, Function.update system.tasks task (Pool.live call (next result))⟩ := by
  rcases before with busy | ⟨task', drains, answered⟩
  · left
    simpa only [Station.idle, active] using busy
  · exact Or.inr ⟨task', drains_advance running drains untaken answered⟩

include running in
theorem armed_advance (inv : Deferred config system) (safe : op.DefersSafely config system task choice)
    (performed : exec system.shared op choice = some (result, t)) (armed : t.SlotArmed) :
    System.WillDrain ⟨t, Function.update system.tasks task (Pool.live call (next result))⟩ := by
  have followed := (inv.drained task call _ running result).1
  have effect := exec_effect performed
  by_cases deferring : op.Deferring
  · -- no CALL: every task that was to look at the slots still is
    have kept : t.activeTransactions = system.shared.activeTransactions → op ≠ .takeIfIdle →
        system.WillDrain → System.WillDrain
          ⟨t, Function.update system.tasks task (Pool.live call (next result))⟩ := by
      intro active untaken before
      refine willDrain_advance running active untaken (before.imp_right ?_)
      rintro ⟨task', drains⟩
      refine ⟨task', drains, fun _ => ?_⟩
      cases op <;> trivial
    cases op
    case insertActive tid connectorId =>
      subst effect
      left
      simp [Op.effect, Station.insertActive, Station.idle, AList.entries_insert]
    case removeActive tid => exact Or.inr ⟨task, Pool.at_of_live ⟨fun _ => id, fun _ => id⟩ followed⟩
    case armReset resetType => exact kept (effect ▸ rfl) (by simp) safe
    case armAvailability evseId target => exact kept (effect ▸ rfl) (by simp) safe.1
    case takeReset =>
      subst effect
      exact kept rfl (by simp) (inv.armed (Or.inr (armed.resolve_left (by simp [Op.effect]))))
    case enqueue queued =>
      subst effect
      exact kept rfl (by simp) (inv.armed armed)
    case takeIfIdle =>
      subst effect
      simp only [Op.effect] at armed ⊢
      split_ifs at armed ⊢ with idle
      · simp [Station.SlotArmed, Station.takeSlots] at armed
      · exact Or.inl idle
    all_goals exact deferring.elim
  · obtain ⟨active, reset, availability, -⟩ := op.effect_undeferring deferring choice system.shared
    have armed' : system.shared.SlotArmed := by
      subst effect
      simpa only [Station.SlotArmed, reset, availability] using armed
    have untaken : op ≠ .takeIfIdle := by
      rintro rfl
      exact deferring trivial
    refine willDrain_advance running (effect ▸ active) untaken ?_
    rcases answered_or_fails performed with answered | ⟨request, answer, rfl, rfl, fails⟩
    · apply (inv.armed armed').imp_right
      rintro ⟨task', drains⟩
      exact ⟨task', drains, fun _ => answered⟩
    · by_cases own : system.At Drains task
      · apply (safe fails own armed').imp_right
        rintro ⟨task', other, drains⟩
        exact ⟨task', drains, fun same => absurd same other⟩
      · apply (inv.armed armed').imp_right
        rintro ⟨task', drains⟩
        refine ⟨task', drains, ?_⟩
        rintro rfl
        exact absurd drains own

include running in
theorem awaits_advance {connectorId number : Nat}
    (slot : t.pendingV201Availability = system.shared.pendingV201Availability)
    (unapplied : ¬op.Applies connectorId number) (awaits : system.Awaits connectorId number) :
    System.Awaits ⟨t, Function.update system.tasks task (Pool.live call (next result))⟩
      connectorId number := by
  rcases awaits with armed | ⟨task', applies⟩
  · left
    simpa only [slot] using armed
  · exact Or.inr ⟨task', applies_advance running applies unapplied⟩

include running in
theorem due_advance (inv : Deferred config system) (safe : op.DefersSafely config system task choice)
    (performed : exec system.shared op choice = some (result, t)) {connectorId number : Nat}
    (known : connectorId ∈ config.connectors) (due : t.due connectorId = some number) :
    System.Awaits ⟨t, Function.update system.tasks task (Pool.live call (next result))⟩
      connectorId number := by
  have followed := (inv.drained task call _ running result).1
  have effect := exec_effect performed
  by_cases deferring : op.Deferring
  · cases op
    case armAvailability evseId target =>
      subst effect
      simp only [Op.effect, Station.armAvailability] at due
      split_ifs at due with covered
      · refine Or.inl ⟨⟨evseId, target, system.shared.scheduled⟩, rfl, by simpa using due, ?_⟩
        exact covers_iff.mp covered
      · rcases inv.due connectorId known number due with ⟨pending, armed, rfl, -⟩ | ⟨task', applies⟩
        · exact absurd (covers_iff.mpr (safe.2 pending armed connectorId known due)) covered
        · exact Or.inr ⟨task', applies_advance running applies id⟩
    case takeIfIdle =>
      simp only [exec, Option.some.injEq] at performed
      split_ifs at performed with idle
      · cases performed
        rcases inv.due connectorId known number due with ⟨pending, armed, rfl, covered⟩ | ⟨task', applies⟩
        · refine Or.inr ⟨task, Pool.at_of_live ⟨fun _ => id, fun _ => id⟩ ?_⟩
          exact followed pending armed connectorId known covered
        · exact Or.inr ⟨task', applies_advance running applies id⟩
      · cases performed
        exact awaits_advance running rfl id (inv.due connectorId known number due)
    case enqueue queued =>
      subst effect
      obtain ⟨before, unapplied⟩ := due_of_enqueue due
      exact awaits_advance running rfl unapplied (inv.due connectorId known number before)
    case insertActive | removeActive | armReset | takeReset =>
      subst effect
      exact awaits_advance running rfl id (inv.due connectorId known number due)
    all_goals exact deferring.elim
  · obtain ⟨-, -, availability, same, -⟩ := op.effect_undeferring deferring choice system.shared
    subst effect
    refine awaits_advance running availability ?_ (inv.due connectorId known number (same ▸ due))
    intro applies
    cases op <;> first | exact applies | exact deferring trivial

end Advance

theorem exists_answered (op : Op) : ∃ result, Answered op result := by
  cases op
  case call request => exact ⟨.ok ⟨0, .accepted, none⟩, rfl⟩
  case getStatus connectorId => exact ⟨.available, trivial⟩
  case lockState tid => exact ⟨.idle, trivial⟩
  case readActive => exact ⟨∅, trivial⟩
  all_goals exact ⟨default, trivial⟩

theorem stops_of_drains {call : Call} {p : Async Unit} (within : p.Within call.ops) (drains : Drains p) :
    call.Stops := by
  by_contra others
  refine within.not_reaches (fun op performed target => ?_) (drains.reaches exists_answered)
  subst target
  exact (Call.undrained others performed).1

theorem stops_of_applies {call : Call} {p : Async Unit} {connectorId number : Nat}
    (within : p.Within call.ops) (applies : Applies connectorId number p) : call.Stops := by
  by_contra others
  refine within.not_reaches (fun op performed target => ?_)
    (applies.reaches fun op => (exists_answered op).imp fun _ _ => trivial)
  exact (Call.undrained others performed).2 connectorId number target

/-- A step that changes no task that stops a transaction, and neither the transactions nor the slots. -/
theorem Deferred.others {system system' : System} (inv : Deferred config system)
    (drained : system'.Each fun _ p => p.Follows (Drained config))
    (within : system'.Each fun call p => p.Within call.ops)
    (active : system'.shared.activeTransactions = system.shared.activeTransactions)
    (reset : system'.shared.pendingV201Reset = system.shared.pendingV201Reset)
    (availability : system'.shared.pendingV201Availability = system.shared.pendingV201Availability)
    (due : system'.shared.due = system.shared.due)
    (tasks : ∀ task call p, system.tasks task = some (call, p) → call.Stops →
      system'.tasks task = some (call, p)) : Deferred config system' where
  drained := drained
  within := within
  armed armed := by
    have before : system.shared.SlotArmed := by
      simpa only [Station.SlotArmed, reset, availability] using armed
    rcases inv.armed before with busy | ⟨task, call, p, running, drains⟩
    · left
      simpa only [Station.idle, active] using busy
    · have stops := stops_of_drains (inv.within task call p running) drains
      exact Or.inr ⟨task, call, p, tasks task call p running stops, drains⟩
  due connectorId known number waiting := by
    rw [due] at waiting
    rcases inv.due connectorId known number waiting with armed | ⟨task, call, p, running, applies⟩
    · left
      simpa only [availability] using armed
    · have stops := stops_of_applies (inv.within task call p running) applies
      exact Or.inr ⟨task, call, p, tasks task call p running stops, applies⟩

theorem deferred_step {system system' : System} {action : Action} (inv : Deferred config system)
    (safe : DefersSafely config system action)
    (stepped : system.step config rfc action = some system') : Deferred config system' := by
  have within := within_step config inv.within stepped
  have drained : system'.Each fun _ p => p.Follows (Drained config) := by
    refine Pool.each_step ?_ (fun _ _ _ result follows => (follows result).2) inv.drained stepped
    intro s task call p s' started
    rw [(Call.start_shared started).1]
    exact call.run_follows config rfc
  cases action with
  | spawn task call =>
      obtain ⟨p, s, free, started, rfl⟩ := Pool.step_spawn stepped
      obtain ⟨-, commands, timers, rfl⟩ := Call.start_shared started
      refine inv.others config drained within rfl rfl rfl rfl fun task' call' p' running _ => ?_
      refine (Function.update_of_ne ?_ ..).trans running
      rintro rfl
      rw [free] at running
      cases running
  | drop task =>
      obtain ⟨call, p, here, droppable, rfl⟩ := Pool.step_drop stepped
      refine inv.others config drained within rfl rfl rfl rfl fun task' call' p' running stops => ?_
      refine (Function.update_of_ne ?_ ..).trans running
      rintro rfl
      rw [here] at running
      cases running
      cases call <;> first | exact stops | cases droppable
  | advance task choice =>
      obtain ⟨call, op, next, result, s, running, performed, rfl⟩ := Pool.step_advance stepped
      have allowed : op.DefersSafely config system task choice :=
        safe call op (by simp [Pool.pending, running])
      exact ⟨drained, within, armed_advance running inv allowed performed,
        fun connectorId known number => due_advance running inv allowed performed known⟩

theorem deferred_new : Deferred config System.new where
  drained task call p running := nomatch running
  within task call p running := nomatch running
  armed armed := by simp [System.new, Station.new, Station.SlotArmed] at armed
  due connectorId known number due := nomatch due

/-- In every run whose steps defer safely, nothing is deferred whenever no transaction is active, no handler
that arms a slot is in progress and no task is in the middle of a stop. -/
theorem no_deferred_command_lost {actions : List Action} {system : System}
    (along : Along (System.step config rfc) (DefersSafely config) System.new actions)
    (ran : run (System.step config rfc) System.new actions = some system) :
    NothingLost config system := by
  have inv := run_invariant (fun _ _ _ => deferred_step config rfc) (deferred_new config) along ran
  intro idle quiet
  have undrained : ¬system.WillDrain := by
    rintro (busy | ⟨task, call, p, running, drains⟩)
    · exact busy idle
    · refine (quiet task call p running).2 ⟨stops_of_drains (inv.within task call p running) drains, ?_⟩
      exact (drains.reaches exists_answered).mono fun _ taken => Or.inl taken
  have unarmed : ¬system.shared.SlotArmed := fun armed => undrained (inv.armed armed)
  have availability : system.shared.pendingV201Availability = none := by
    rw [Option.eq_none_iff_forall_ne_some]
    exact fun pending armed => unarmed (Or.inr (by simp [armed]))
  refine ⟨?_, availability, fun connectorId known => ?_⟩
  · rw [Option.eq_none_iff_forall_ne_some]
    exact fun resetType armed => unarmed (Or.inl (by simp [armed]))
  · rw [Option.eq_none_iff_forall_ne_some]
    intro number due
    rcases inv.due connectorId known number due with ⟨pending, armed, -⟩ | ⟨task, call, p, running, applies⟩
    · rw [availability] at armed
      cases armed
    · refine (quiet task call p running).2 ⟨stops_of_applies (inv.within task call p running) applies, ?_⟩
      refine (applies.reaches fun op => (exists_answered op).imp fun _ _ => trivial).mono fun _ queued => ?_
      exact Or.inr ⟨connectorId, number, queued⟩

/-! ## A stop that does not get to its end -/

/-- A transaction during which a reset and an availability change are scheduled, and its stop up to
the answer to its last CALL. -/
def deferringSession (last : Choice) : List Action :=
  startSession 1 1 ++ .spawn 2 (.v201Reset .onIdle) :: drive 2 [.none, .none] ++
    .spawn 2 (.v201ChangeAvailability (some 1) .inoperative) :: drive 2 [.none, .none] ++
      .spawn 1 (.stopTransaction 1 0 .local) :: drive 1 (List.replicate 5 .none ++
        [answered 0, answered 0, .none, .none, .none, last])

/-- Slots are armed while a transaction is active and no change is armed yet, and every CALL is answered. -/
def defersPlainly (system : System) (action : Action) : Bool :=
  match action with
  | .advance task choice =>
      match system.pending task with
      | some (_, .armReset _) => !system.shared.idle
      | some (_, .armAvailability ..) =>
          !system.shared.idle && system.shared.pendingV201Availability.isNone
      | some (_, .call _) => match choice with
          | .answer answer => !decide answer.Fails
          | _ => true
      | _ => true
  | _ => true

theorem defersSafely_of_plainly {system : System} {action : Action}
    (checked : defersPlainly system action) : DefersSafely config system action := by
  cases action with
  | spawn task call => trivial
  | drop task => trivial
  | advance task choice =>
      intro call op pending
      simp only [defersPlainly, pending] at checked
      cases op
      case armReset resetType => exact Or.inl (by simpa using checked)
      case armAvailability evseId target =>
        simp only [Bool.and_eq_true, Option.isNone_iff_eq_none] at checked
        refine ⟨Or.inl (by simpa using checked.1), fun armed found => ?_⟩
        rw [checked.2] at found
        cases found
      case call request =>
        cases choice with
        | answer answer =>
            intro fails
            simp [fails] at checked
        | _ => trivial
      all_goals trivial

theorem deferred_commands_queued :
    ∃ system, run (System.step (simulator .v201) noDates) System.new
        (deferringSession (answered 0) ++ drive 1 [.none, .none, .none]) = some system ∧
      system.shared.commands = [.v201ApplyAvailability 1 .inoperative (some 0), .reset .soft] ∧
      NothingLost (simulator .v201) system := by
  have reached : (run (System.step (simulator .v201) noDates) System.new
      (deferringSession (answered 0) ++ drive 1 [.none, .none, .none])).map (·.shared.commands) =
        some [.v201ApplyAvailability 1 .inoperative (some 0), .reset .soft] := rfl
  obtain ⟨system, ran, queued⟩ := Option.map_eq_some_iff.mp reached
  refine ⟨system, ran, queued, no_deferred_command_lost (simulator .v201) noDates ?_ ran⟩
  exact Along.of_check (fun _ => True) defersPlainly
    (fun _ _ _ => defersSafely_of_plainly (simulator .v201)) (fun _ _ _ _ _ _ => trivial) trivial rfl

/-- The stop returns early when its last CALL fails, and nothing drains the slots it leaves armed. -/
theorem deferred_commands_lost :
    ∃ system, run (System.step (simulator .v201) noDates) System.new (deferringSession lost) =
        some system ∧
      system.shared.pendingV201Reset = some .soft ∧ ¬NothingLost (simulator .v201) system := by
  have reached : (run (System.step (simulator .v201) noDates) System.new (deferringSession lost)).map
      (fun system => (system.shared.pendingV201Reset, system.shared.idle, (system.tasks 1).isNone,
        (system.tasks 2).isNone)) = some (some .soft, true, true, true) := rfl
  obtain ⟨system, ran, found⟩ := Option.map_eq_some_iff.mp reached
  simp only [Prod.mk.injEq, Option.isNone_iff_eq_none] at found
  obtain ⟨armed, idle, first, second⟩ := found
  refine ⟨system, ran, armed, fun nothingLost => ?_⟩
  have two : ∀ action ∈ deferringSession lost, action.task = 1 ∨ action.task = 2 := by
    have checked : (deferringSession lost).all (fun action => action.task = 1 ∨ action.task = 2) := rfl
    simpa using checked
  have settled := nothingLost idle fun task call p running => ?_
  · rw [settled.reset] at armed
    cases armed
  · have other : ∀ action ∈ deferringSession lost, task ≠ action.task := by
      rintro action mem rfl
      rcases two action mem with one | other
      · rw [one, first] at running
        cases running
      · rw [other, second] at running
        cases running
    rw [Pool.run_other ran other] at running
    cases running

end Ocpp.ChargePoint
