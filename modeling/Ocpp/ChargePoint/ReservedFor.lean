import Ocpp.ChargePoint.OneTransaction

/-!
# Connectors reserved for an id tag

Nothing on the way from a start to its recorded transaction compares the id tag with the reservation of
the connector. A reserved connector serves only its reserver as long as no start for another tag begins
while the reservation is held, and none is under way when the reservation is made.
-/

namespace Ocpp.ChargePoint
open Library Library.Program V16j V201

variable (config : Config) (rfc : Rfc3339)

def Call.startsFor : Call → Option (Nat × String)
  | startTransaction connectorId idTag _ => some (connectorId, idTag)
  | command (.startTransaction connectorId idTag ..) => some (connectorId, idTag)
  | _ => none

/-- Every reservation held on the connector was made for the id tag. -/
def Station.ReservedOnlyFor (s : Station) (connectorId : Nat) (idTag : String) : Prop :=
  ∀ id, s.reservations.lookup id = some connectorId → s.reservationTag id = idTag

/-- A start that records a transaction in this step finds no reservation for another id tag. -/
def ServesReserver (system : System) : Action → Prop
  | .advance task _ => ∀ call connectorId idTag tid, call.startsFor = some (connectorId, idTag) →
      system.pending task = some (call, .insertActive tid connectorId) →
        system.shared.ReservedOnlyFor connectorId idTag
  | _ => True

def MayRecord (connectorId : Nat) (p : Async Unit) : Prop :=
  p.Reaches (Op.records connectorId) fun _ => False

/-- A start begins only on a connector that is not reserved for another id tag, and a reservation is made
only while no start for another id tag may still record a transaction there. -/
def RespectsReservations (system : System) : Action → Prop
  | .spawn _ call => ∀ connectorId idTag, call.startsFor = some (connectorId, idTag) →
      system.shared.ReservedOnlyFor connectorId idTag
  | .advance task _ => ∀ call id connectorId reserver,
      system.pending task = some (call, .insertReservation id connectorId reserver) →
        ∀ task' call' p' idTag, system.tasks task' = some (call', p') →
          call'.startsFor = some (connectorId, idTag) → MayRecord connectorId p' → idTag = reserver
  | .drop _ => True

/-- Every start that may still record a transaction has its connector to itself. -/
def StartsUncontested (system : System) : Prop :=
  ∀ task call p connectorId idTag, system.tasks task = some (call, p) →
    call.startsFor = some (connectorId, idTag) → MayRecord connectorId p →
      system.shared.ReservedOnlyFor connectorId idTag

theorem Op.effect_reservations {op : Op} {choice : Choice} {s : Station} {id : Int} {connectorId : Nat}
    (held : (op.effect choice s).reservations.lookup id = some connectorId) :
    s.reservations.lookup id = some connectorId ∧
        (op.effect choice s).reservationTag id = s.reservationTag id ∨
      ∃ idTag, op = .insertReservation id connectorId idTag ∧
        (op.effect choice s).reservationTag id = idTag := by
  cases op
  case insertReservation made target idTag =>
    obtain ⟨rfl, rfl⟩ | ⟨other, before⟩ := HashMap.lookup_insert_eq_some.mp held
    · exact Or.inr ⟨idTag, rfl, Function.update_self ..⟩
    · exact Or.inl ⟨before, Function.update_of_ne other ..⟩
  case takeReservationsOn target =>
    simp only [Op.effect, Station.dropReservationsOn, HashMap.lookup_retain] at held
    exact Or.inl ⟨(Option.mem_filter_iff.mp held).1, rfl⟩
  case removeReservation removed =>
    exact Or.inl ⟨HashMap.lookup_of_erase held, rfl⟩
  case expireReservation removed target =>
    simp only [Op.effect] at held ⊢
    split_ifs at held ⊢
    · exact Or.inl ⟨HashMap.lookup_of_erase held, rfl⟩
    · exact Or.inl ⟨held, rfl⟩
  case setIdentity tid idTag groupIdToken =>
    obtain ⟨v201Sessions, identified⟩ := s.setIdentity_eq tid idTag groupIdToken
    simp only [Op.effect, identified] at held ⊢
    exact Or.inl ⟨held, trivial⟩
  case removeTimers ids =>
    obtain ⟨expiryTimers, timers, removed⟩ := s.removeTimers_eq ids
    simp only [Op.effect, removed] at held ⊢
    exact Or.inl ⟨held, trivial⟩
  case claimListedSeqNo | takeIfIdle =>
    simp only [Op.effect] at held ⊢
    split_ifs at held ⊢ <;> exact Or.inl ⟨held, rfl⟩
  case call request =>
    cases choice <;> exact Or.inl ⟨held, rfl⟩
  all_goals exact Or.inl ⟨held, rfl⟩

theorem startsUncontested_step {system system' : System} {action : Action}
    (inv : StartsUncontested system) (respects : RespectsReservations system action)
    (stepped : system.step config rfc action = some system') : StartsUncontested system' := by
  intro task' call' p' connectorId idTag running' starts mayRecord id held
  cases action with
  | spawn task call =>
      obtain ⟨p, s, -, started, rfl⟩ := Pool.step_spawn stepped
      obtain ⟨-, commands, timers, rfl⟩ := Call.start_shared started
      rcases Pool.task_of_update running' with ⟨-, rfl, -⟩ | ⟨-, before⟩
      · exact respects connectorId idTag starts id held
      · exact inv task' call' p' connectorId idTag before starts mayRecord id held
  | drop task =>
      obtain ⟨call, p, -, -, rfl⟩ := Pool.step_drop stepped
      exact inv task' call' p' connectorId idTag (Pool.task_of_drop running').2 starts mayRecord id held
  | advance task choice =>
      obtain ⟨call, op, next, result, s, running, performed, rfl⟩ := Pool.step_advance stepped
      have effect := exec_effect performed
      subst effect
      -- what the task may record now it could record before
      obtain ⟨p, before, could⟩ : ∃ p, system.tasks task' = some (call', p) ∧ MayRecord connectorId p := by
        rcases Pool.task_of_update running' with ⟨rfl, rfl, rfl⟩ | ⟨-, before⟩
        · exact ⟨_, running, Reaches.of_next (fun stopped => stopped) mayRecord⟩
        · exact ⟨p', before, mayRecord⟩
      rcases Op.effect_reservations held with ⟨heldBefore, tag⟩ | ⟨reserver, rfl, tag⟩
      · exact tag.trans (inv task' call' p connectorId idTag before starts could id heldBefore)
      · have pending : system.pending task = some (call, .insertReservation id connectorId reserver) := by
          simp [Pool.pending, running]
        rw [respects call id connectorId reserver pending task' call' p idTag before starts could]
        exact tag

/-- In every run in which starts and reservations respect each other, a start records a transaction only
on a connector that is not reserved for another id tag. -/
theorem reserved_serves_reserver {actions : List Action}
    (along : Along (System.step config rfc) RespectsReservations System.new actions) :
    Along (System.step config rfc) ServesReserver System.new actions := by
  refine along.of_invariant (fun _ _ _ => startsUncontested_step config rfc) ?_
    fun task call p connectorId idTag running => nomatch running
  intro system action inv _
  cases action with
  | spawn task call => trivial
  | drop task => trivial
  | advance task choice =>
      intro call connectorId idTag tid starts pending
      obtain ⟨next, running⟩ := Pool.pending_eq_some pending
      exact inv task call _ connectorId idTag running starts (Or.inl rfl)

/-! ## A reserved connector -/

def reserveRequest : ReserveNowRequest :=
  ⟨1, ⟨10⟩, "RESERVER", 5⟩

/-- A reservation of connector 1, and a start on it up to its transaction being recorded. -/
def reservedStart (idTag : String) : List Action :=
  .spawn 1 (.v16jReserveNow ⟨0⟩ reserveRequest) :: drive 1 (List.replicate 7 .none) ++
    .spawn 2 (.startTransaction 1 idTag 0) :: drive 2 [.pick none, answered 0, answered 7]

/-- Two tasks, of which the one that makes a reservation starts nothing and is alone. -/
def reservesAlone (system : System) (action : Action) : Bool :=
  (action.task = 1 ∨ action.task = 2) &&
    match action with
    | .spawn _ call => match call.startsFor with
        | some (connectorId, idTag) => system.shared.reservations.entries.all fun e =>
            e.2 ≠ connectorId || system.shared.reservationTag e.1 = idTag
        | none => true
    | .advance task _ => match system.pending task with
        | some (call, .insertReservation ..) => call.startsFor.isNone && (system.tasks (3 - task)).isNone
        | _ => true
    | .drop _ => true

theorem respects_of_reservesAlone {system : System} {action : Action}
    (two : ∀ task, task ≠ 1 → task ≠ 2 → system.tasks task = none)
    (checked : reservesAlone system action) : RespectsReservations system action := by
  have allowed := ((Bool.and_eq_true _ _).mp checked).2
  have mine := of_decide_eq_true ((Bool.and_eq_true _ _).mp checked).1
  cases action with
  | spawn task call =>
      intro connectorId idTag starts id held
      simp only [starts, List.all_eq_true] at allowed
      have entry := allowed ⟨id, connectorId⟩ (AList.mem_lookup_iff.mp held)
      simpa using entry
  | advance task choice =>
      intro call id connectorId reserver pending task' call' p' idTag running starts mayRecord
      simp only [pending, Bool.and_eq_true, Option.isNone_iff_eq_none] at allowed
      obtain ⟨next, reserving⟩ := Pool.pending_eq_some pending
      by_cases same : task' = task
      · subst same
        rw [reserving] at running
        cases running
        rw [allowed.1] at starts
        cases starts
      · by_cases other : task' = 3 - task
        · rw [other, allowed.2] at running
          cases running
        · simp only [PoolAction.task] at mine
          rw [two task' (by omega) (by omega)] at running
          cases running
  | drop task => trivial

theorem reserver_is_served :
    ∃ system, run (System.step (simulator .v16j) noDates) System.new
        (reservedStart "RESERVER" ++ [.advance 2 .none]) = some system ∧
      system.shared.activeTransactions.lookup 7 = some 1 ∧
      Along (System.step (simulator .v16j) noDates) ServesReserver System.new
        (reservedStart "RESERVER" ++ [.advance 2 .none]) := by
  obtain ⟨system, ran, recorded⟩ := Option.map_eq_some_iff.mp
    (rfl : (run (System.step (simulator .v16j) noDates) System.new
      (reservedStart "RESERVER" ++ [.advance 2 .none])).map
        (·.shared.activeTransactions.lookup 7) = some (some 1))
  refine ⟨system, ran, recorded, reserved_serves_reserver (simulator .v16j) noDates ?_⟩
  refine Along.of_check (fun system => ∀ task, task ≠ 1 → task ≠ 2 → system.tasks task = none)
    reservesAlone (fun _ _ => respects_of_reservesAlone) ?_ (fun _ _ _ => rfl) rfl
  intro system action system' two checked stepped task first second
  have mine := of_decide_eq_true ((Bool.and_eq_true _ _).mp checked).1
  rw [Pool.step_other stepped (by omega), two task first second]

theorem stranger_is_served :
    ¬Along (System.step (simulator .v16j) noDates) ServesReserver System.new
      (reservedStart "STRANGER" ++ [.advance 2 .none]) := by
  intro along
  obtain ⟨system, ran, found⟩ := Option.map_eq_some_iff.mp
    (rfl : (run (System.step (simulator .v16j) noDates) System.new (reservedStart "STRANGER")).map
      (fun system => (system.pending 2, system.shared.reservations.lookup 5,
        system.shared.reservationTag 5)) =
      some (some (.startTransaction 1 "STRANGER" 0, .insertActive 7 1), some 1, "RESERVER"))
  obtain ⟨pending, held⟩ := Prod.mk.inj found
  obtain ⟨reserved, reserver⟩ := Prod.mk.inj held
  have tag := along.after ran _ 1 "STRANGER" 7 rfl pending 5 reserved
  rw [reserver] at tag
  exact absurd tag (by decide)

end Ocpp.ChargePoint
