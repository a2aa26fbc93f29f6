import Ocpp.ChargePoint.Completed

/-!
# Reservations

A reservation is spread over the reservation map, the status and the holder of its connector, and a timer
under an id that the CSMS chose. With calls that run one after the other these agree, as long as no id is
reused while it is held and no transaction starts or ends on a reserved connector.
-/

namespace Ocpp.ChargePoint
open Library Library.Program V16j V201

variable (config : Config) (rfc : Rfc3339)

/-! ## What the handlers leave behind -/

/-- The state in which a reservation is recorded and its report queued. -/
def Station.accept (reservationId : Int) (connectorId : Nat) (idTag : String) (s : Station) : Station :=
  (((s.setReservedFor connectorId (some idTag)).setStatus connectorId .reserved).insertReservation
    reservationId connectorId idTag).enqueue (.emitConnectorStatus connectorId .reserved)

inductive ReserveOutcome (acceptable : Nat → Prop) (reservationId : Int) (idTag : String) (s : Station) :
    Station → Prop
  | refused : ReserveOutcome acceptable reservationId idTag s s
  | accepted (connectorId : Nat) (permitted : acceptable connectorId) :
      ReserveOutcome acceptable reservationId idTag s (s.accept reservationId connectorId idTag)
  | timed (connectorId : Nat) (permitted : acceptable connectorId) :
      ReserveOutcome acceptable reservationId idTag s
        ((s.accept reservationId connectorId idTag).armTimer ⟨reservationId, connectorId, s.reserved⟩)

/-- The request is for the connector, which is available, and has not expired yet. -/
def ReserveNowRequest.Acceptable (now : DateTime) (req : ReserveNowRequest) (s : Station)
    (connectorId : Nat) : Prop :=
  ¬req.expiryDate ≤ now ∧ connectorOf req.connectorId = some connectorId ∧
    connectorId ∈ config.connectors ∧ s.status connectorId = .available

def V201ReserveNowRequest.Acceptable (now : DateTime) (req : V201ReserveNowRequest) (s : Station)
    (connectorId : Nat) : Prop :=
  ¬(rfc.parse req.expiryDateTime).any (· ≤ now) ∧ req.evseId.bind connectorOf = some connectorId ∧
    connectorId ∈ config.connectors ∧ s.status connectorId = .available

theorem wp_reserve {α : Type} {post : Except OcppError α → Station → Prop} {s : Station}
    {connectorId : Nat} {idTag : String} {f : Bool → Async α}
    (available : s.status connectorId = .available)
    (rest : (f true).wp exec post
      ((s.setReservedFor connectorId (some idTag)).setStatus connectorId .reserved)) :
    (reserve connectorId idTag >>= f).wp exec post s := by
  rw [reserve, bind_bind]
  refine wp_act (fun _ => rfl) ?_
  rw [if_pos available]
  exact wp_act (fun _ => rfl) (wp_act (fun _ => rfl) rest)

theorem v16jReserveNow_outcome (now : DateTime) (req : ReserveNowRequest) (s : Station) :
    (v16jReserveNow config now req).wp exec (fun _ t =>
      ReserveOutcome (req.Acceptable config now s) req.reservationId req.idTag s t) s := by
  unfold v16jReserveNow
  split_ifs with expired
  · exact .refused
  split
  · exact .refused
  case h_2 connectorId found =>
    obtain ⟨named, known⟩ := Option.mem_filter_iff.mp found
    refine wp_act (fun _ => rfl) ?_
    split_ifs with occupied
    · exact .refused
    have available := not_not.mp occupied
    refine wp_reserve available ?_
    refine wp_act (fun _ => rfl) (wp_act (fun _ => rfl) (wp_act (fun _ => rfl) ?_))
    exact .timed connectorId ⟨expired, named, of_decide_eq_true known, available⟩

theorem v201ReserveNow_outcome (now : DateTime) (req : V201ReserveNowRequest) (s : Station) :
    (v201ReserveNow config rfc now req).wp exec (fun _ t =>
      ReserveOutcome (req.Acceptable config rfc now s) req.id req.idToken.idToken s t) s := by
  unfold v201ReserveNow
  dsimp only
  split
  · split_ifs
    · exact .refused
    · split <;> exact .refused
  case h_2 connectorId found =>
    obtain ⟨named, known⟩ := Option.mem_filter_iff.mp found
    refine wp_act (fun _ => rfl) ?_
    split_ifs with expired occupied
    · exact .refused
    · exact .refused
    have available := not_not.mp occupied
    have acceptable : req.Acceptable config rfc now s connectorId :=
      ⟨expired, named, of_decide_eq_true known, available⟩
    refine wp_reserve available ?_
    refine wp_act (fun _ => rfl) (wp_act (fun _ => rfl) ?_)
    refine wp_onlyIf (fun _ => wp_act (fun _ => rfl) ?_) fun _ => ?_
    · exact .timed connectorId acceptable
    · exact .accepted connectorId acceptable

def Station.cancel (connectorId : Nat) (s : Station) : Station :=
  { s with
    reservedFor := Function.update s.reservedFor connectorId none
    status := if s.status connectorId = .reserved then
      Function.update s.status connectorId .available else s.status }

def Station.release (connectorId : Nat) (s : Station) : Station :=
  if connectorId ∈ config.connectors then s.cancel connectorId else s

theorem cancelReservation_outcome (connectorId : Nat) (s : Station) :
    (cancelReservation connectorId).wp exec
      (fun outcome t => outcome = .ok () ∧ t = s.cancel connectorId) s := by
  refine wp_act (fun _ => rfl) (wp_act (fun _ => rfl) ?_)
  have same : (s.setReservedFor connectorId none).status = s.status := rfl
  rw [same]
  split_ifs with reserved
  · intro choice result t performed
    cases performed
    exact ⟨rfl, by rw [Station.cancel, if_pos reserved]; rfl⟩
  · exact ⟨rfl, by rw [Station.cancel, if_neg reserved]; rfl⟩

theorem freeReserved_outcome (connectorId : Nat) (s : Station) :
    (freeReserved config connectorId).wp exec (fun outcome t => outcome = .ok () ∧
      ∃ commands, t = { s.release config connectorId with commands }) s := by
  unfold freeReserved
  split_ifs with known
  · have released : s.release config connectorId = s.cancel connectorId := if_pos known
    refine wp_act (fun _ => rfl) ?_
    refine wp_seq (cancelReservation_outcome connectorId s) ?_ ?_
    · rintro error t ⟨⟨⟩, -⟩
    rintro _ _ ⟨-, rfl⟩
    rw [released]
    split_ifs
    · intro choice result t performed
      cases performed
      exact ⟨rfl, _, rfl⟩
    · exact ⟨rfl, _, rfl⟩
  · exact ⟨rfl, s.commands, by rw [Station.release, if_neg known]⟩

theorem reportReservation_outcome (reservationId : Int) (status : ReservationUpdateStatusEnumType)
    (s : Station) :
    (reportReservation config reservationId status).wp exec (fun outcome t => outcome = .ok () ∧
      ∃ commands, t = { s with commands }) s := by
  unfold reportReservation
  cases config.protocolVersion with
  | v16j => exact ⟨rfl, _, rfl⟩
  | v201 =>
      intro choice result t performed
      cases performed
      exact ⟨rfl, _, rfl⟩

theorem release_report {reservationId : Int} {status : ReservationUpdateStatusEnumType}
    {connectorId : Nat} {s : Station} {α : Type} {post : Except OcppError α → Station → Prop}
    {f : Unit → Async α}
    (rest : ∀ commands, (f ()).wp exec post { s.release config connectorId with commands }) :
    (freeReserved config connectorId >>= fun _ =>
      reportReservation config reservationId status >>= f).wp exec post s := by
  refine wp_seq (freeReserved_outcome config connectorId s) ?_ ?_
  · rintro error t ⟨⟨⟩, -⟩
  rintro _ _ ⟨-, commands, rfl⟩
  refine wp_seq (reportReservation_outcome config reservationId status _) ?_ ?_
  · rintro error t ⟨⟨⟩, -⟩
  rintro _ _ ⟨-, commands, rfl⟩
  exact rest commands

inductive CancelOutcome (reservationId : Int) (s : Station) : Station → Prop
  | unknown (absent : s.reservations.lookup reservationId = none) :
      CancelOutcome reservationId s (s.removeReservation reservationId)
  | cancelled (connectorId : Nat) (held : s.reservations.lookup reservationId = some connectorId)
      (commands : List RemoteCommand) :
      CancelOutcome reservationId s
        { ((s.removeReservation reservationId).removeTimers [reservationId]).release config connectorId
          with commands }

theorem cancelReservationRequest_outcome (reservationId : Int) (s : Station) :
    (cancelReservationRequest config reservationId).wp exec
      (fun _ t => CancelOutcome config reservationId s t) s := by
  refine wp_act (fun _ => rfl) ?_
  cases held : s.reservations.lookup reservationId with
  | none => exact .unknown held
  | some connectorId =>
      refine wp_act (fun _ => rfl) (release_report config fun commands => ?_)
      exact .cancelled connectorId held commands

inductive ExpireOutcome (timer : ReservationTimer) (s : Station) : Station → Prop
  | gone (other : s.reservations.lookup timer.reservationId ≠ some timer.connectorId) :
      ExpireOutcome timer s s
  | expired (held : s.reservations.lookup timer.reservationId = some timer.connectorId)
      (commands : List RemoteCommand) :
      ExpireOutcome timer s
        { (s.removeReservation timer.reservationId).release config timer.connectorId with commands }

theorem expireReservation_outcome (timer : ReservationTimer) (s : Station) :
    (expireReservation config timer).wp exec (fun _ t => ExpireOutcome config timer s t) s := by
  intro choice expired u performed
  simp only [exec, Option.some.injEq] at performed
  split_ifs at performed with held
  · cases performed
    change (freeReserved config timer.connectorId >>= fun _ =>
      reportReservation config timer.reservationId .expired).wp exec _ _
    rw [← bind_ret (reportReservation config timer.reservationId .expired)]
    exact release_report config fun commands => .expired held commands
  · cases performed
    exact .gone held

/-! ## The books -/

structure BooksExact (s : Station) : Prop where
  reserved : ∀ connectorId ∈ config.connectors, s.status connectorId = .reserved ↔
    ∃! reservationId, s.reservations.lookup reservationId = some connectorId
  holder : ∀ connectorId ∈ config.connectors, (s.reservedFor connectorId).isSome ↔
    s.status connectorId = .reserved
  distinct : ∀ reservationId reservationId' connectorId,
    s.reservations.lookup reservationId = some connectorId →
    s.reservations.lookup reservationId' = some connectorId → reservationId = reservationId'

/-- A sleeping timer belongs to the reservation that is held under its id. -/
structure Station.Armed (s : Station) (handle : Nat) (timer : ReservationTimer) : Prop where
  held : s.reservations.lookup timer.reservationId = some timer.connectorId
  number : s.reservationOf timer.reservationId = timer.reservation
  listed : s.expiryTimers.lookup timer.reservationId = some handle
  earlier : handle < s.timersArmed

structure Books (s : Station) : Prop where
  reserved : ∀ connectorId ∈ config.connectors, s.status connectorId = .reserved ↔
    ∃ reservationId, s.reservations.lookup reservationId = some connectorId
  holder : ∀ connectorId ∈ config.connectors, (s.reservedFor connectorId).isSome ↔
    s.status connectorId = .reserved
  distinct : ∀ reservationId reservationId' connectorId,
    s.reservations.lookup reservationId = some connectorId →
    s.reservations.lookup reservationId' = some connectorId → reservationId = reservationId'
  known : ∀ reservationId connectorId, s.reservations.lookup reservationId = some connectorId →
    connectorId ∈ config.connectors
  timers : ∀ handle timer, s.timers.lookup handle = some timer → s.Armed handle timer

theorem Books.exact {s : Station} (inv : Books config s) : BooksExact config s where
  reserved connectorId known := by
    rw [inv.reserved connectorId known]
    constructor
    · rintro ⟨id, held⟩
      exact ⟨id, held, fun id' held' => inv.distinct id' id connectorId held' held⟩
    · rintro ⟨id, held, -⟩
      exact ⟨id, held⟩
  holder := inv.holder
  distinct := inv.distinct

/-! ## Starts and stops beside the books -/

/-- Everything the books read is the same. -/
structure SameBooks (s t : Station) : Prop where
  reservations : t.reservations = s.reservations
  reservedFor : t.reservedFor = s.reservedFor
  timers : t.timers = s.timers
  expiryTimers : t.expiryTimers = s.expiryTimers
  reservationOf : t.reservationOf = s.reservationOf
  timersArmed : t.timersArmed = s.timersArmed
  status : ∀ connectorId, t.status connectorId = .reserved ↔ s.status connectorId = .reserved

theorem SameBooks.trans {s t u : Station} (first : SameBooks s t) (second : SameBooks t u) :
    SameBooks s u where
  reservations := second.reservations.trans first.reservations
  reservedFor := second.reservedFor.trans first.reservedFor
  timers := second.timers.trans first.timers
  expiryTimers := second.expiryTimers.trans first.expiryTimers
  reservationOf := second.reservationOf.trans first.reservationOf
  timersArmed := second.timersArmed.trans first.timersArmed
  status connectorId := (second.status connectorId).trans (first.status connectorId)

theorem Books.of_same {s t : Station} (inv : Books config s) (same : SameBooks s t) : Books config t where
  reserved connectorId known := by
    rw [same.status, same.reservations]
    exact inv.reserved connectorId known
  holder connectorId known := by
    rw [same.status, same.reservedFor]
    exact inv.holder connectorId known
  distinct := same.reservations ▸ inv.distinct
  known := same.reservations ▸ inv.known
  timers handle timer found := by
    obtain ⟨held, number, listed, earlier⟩ := inv.timers handle timer (same.timers ▸ found)
    exact ⟨same.reservations ▸ held, same.reservationOf ▸ number, same.expiryTimers ▸ listed,
      same.timersArmed ▸ earlier⟩

/-- No reservation on the connector, which is not reserved either. -/
def Station.Unreserved (s : Station) (connectorId : Nat) : Prop :=
  s.status connectorId ≠ .reserved ∧
    ∀ reservationId, s.reservations.lookup reservationId ≠ some connectorId

theorem SameBooks.unreserved {s t : Station} (same : SameBooks s t) {connectorId : Nat}
    (free : s.Unreserved connectorId) : t.Unreserved connectorId := by
  refine ⟨fun reserved => free.1 ((same.status connectorId).mp reserved), fun reservationId => ?_⟩
  rw [same.reservations]
  exact free.2 reservationId

theorem sameBooks_called (s : Station) (request : Request) (answer : Answer) :
    SameBooks s (s.called request answer) :=
  ⟨rfl, rfl, rfl, rfl, rfl, rfl, fun _ => Iff.rfl⟩

theorem sameBooks_energize {connectorId : Nat} {s : Station} (free : s.Unreserved connectorId) :
    SameBooks s (s.energize config connectorId) := by
  have others : ∀ e ∈ s.reservations.entries, e.2 ≠ connectorId := by
    rintro ⟨id, held⟩ member rfl
    exact free.2 id (AList.mem_lookup_iff.mpr member)
  have none : s.reservationsOn connectorId = [] := by
    simpa [Station.reservationsOn] using others
  have kept : s.dropReservationsOn connectorId = s := by
    rw [Station.dropReservationsOn, HashMap.retain_eq_self fun e member => decide_eq_true (others e member)]
  have status := s.energize_status config connectorId
  rw [Station.energize, none, kept] at status ⊢
  refine ⟨?_, ?_, ?_, ?_, ?_, ?_, fun target => ?_⟩
  iterate 6 split_ifs <;> rfl
  rw [status]
  split_ifs
  · by_cases here : target = connectorId
    · subst here
      simp [free.1]
    · rw [Function.update_of_ne here]
  · rfl

theorem EnergizeOutcome.sameBooks {connectorId : Nat} {transactionId : Int} {s t : Station}
    {outcome : Except OcppError Unit} (free : s.Unreserved connectorId)
    (ended : EnergizeOutcome config connectorId transactionId s outcome t) : SameBooks s t := by
  have energized := sameBooks_energize config free
  cases ended with
  | unreported answer => exact energized.trans (sameBooks_called _ _ answer)
  | energized response =>
      have told := energized.trans (sameBooks_called _ (.statusNotification connectorId .charging) (.replied response))
      exact told.trans ⟨rfl, rfl, rfl, rfl, rfl, rfl, fun _ => Iff.rfl⟩

theorem OpenOutcome.sameBooks {connectorId : Nat} {idTag : String} {meterStart : Int} {s t : Station}
    {outcome : Except OcppError Int}
    (ended : OpenOutcome config connectorId idTag meterStart s outcome t) : SameBooks s t := by
  obtain ⟨_, _, _, _, _, rfl⟩ := ended.eq
  exact ⟨rfl, rfl, rfl, rfl, rfl, rfl, fun _ => Iff.rfl⟩

theorem StartOutcome.sameBooks {connectorId : Nat} {idTag : String} {meterStart : Int} {s t : Station}
    {outcome : Except OcppError Int}
    (free : (∃ answer, (.statusNotification connectorId .charging, answer) ∈ s.made t) →
      s.Unreserved connectorId)
    (ended : StartOutcome config connectorId idTag meterStart s outcome t) : SameBooks s t := by
  cases ended with
  | advanced | notPrepared | notAuthorized =>
      exact ⟨rfl, rfl, rfl, rfl, rfl, rfl, fun _ => Iff.rfl⟩
  | notOpened prepared _ _ opening =>
      exact (sameBooks_called s _ _).trans (opening.sameBooks config)
  | folded transactionId plugged connected prepared authorized _ _ energized =>
      obtain ⟨-, session, listed, -⟩ := plugged
      have folded := Station.fold_eq connectorId idTag transactionId prepared authorized listed
      have same : SameBooks s (s.fold connectorId idTag transactionId prepared authorized) := by
        rw [folded]
        exact ⟨rfl, rfl, rfl, rfl, rfl, rfl, fun _ => Iff.rfl⟩
      have clear := free (energized.reported config ⟨_, by rw [folded]⟩)
      exact same.trans (energized.sameBooks config (same.unreserved clear))
  | opened prepared transactionId u opening _ _ energized =>
      have clear := free (energized.reported config (by
        obtain ⟨made, calls⟩ := opening.earlier
        exact ⟨_, by rw [Station.insertActive_calls, calls, Station.called_calls, List.append_assoc]⟩))
      have inserted : SameBooks u (u.insertActive transactionId connectorId) :=
        ⟨rfl, rfl, rfl, rfl, rfl, rfl, fun _ => Iff.rfl⟩
      have same := ((sameBooks_called s _ _).trans (opening.sameBooks config)).trans inserted
      exact same.trans (energized.sameBooks config (same.unreserved clear))

theorem CloseOutcome.sameBooks {connectorId : Nat} {transactionId meterStop : Int} {reason : Reason}
    {s t : Station} {outcome : Except OcppError Unit}
    (ended : CloseOutcome config connectorId transactionId meterStop reason s outcome t) :
    SameBooks s t := by
  obtain ⟨_, _, _, _, _, rfl⟩ := ended.eq
  exact ⟨rfl, rfl, rfl, rfl, rfl, rfl, fun _ => Iff.rfl⟩

theorem sameBooks_free {connectorId : Nat} {transactionId : Int} {s : Station}
    (free : s.status connectorId ≠ .reserved) : SameBooks s (s.free config connectorId transactionId) := by
  rw [Station.free_eq]
  refine ⟨rfl, rfl, rfl, rfl, rfl, rfl, fun target => ?_⟩
  dsimp only
  split_ifs
  · by_cases here : target = connectorId
    · subst here
      simp [free]
    · rw [Function.update_of_ne here]
  · rfl

theorem StopOutcome.sameBooks {transactionId meterStop : Int} {reason : Reason} {s t : Station}
    {outcome : Except OcppError Unit}
    (free : ∀ connectorId, s.activeTransactions.lookup transactionId = some connectorId →
      (∃ answer, (available connectorId, answer) ∈ s.made t) → s.status connectorId ≠ .reserved)
    (ended : StopOutcome config transactionId meterStop reason s outcome t) : SameBooks s t := by
  have freed : ∀ connectorId u finished answer,
      CloseOutcome config connectorId transactionId meterStop reason s (.ok ()) u →
      s.status connectorId ≠ .reserved → SameBooks s (((u.called (finishing connectorId)
        (.replied finished)).free config connectorId transactionId).called (available connectorId)
          answer) := by
    intro connectorId u finished answer closing unreserved
    have closed := closing.sameBooks.trans (sameBooks_called u (finishing connectorId) (.replied finished))
    refine (closed.trans (sameBooks_free config fun reserved => ?_)).trans (sameBooks_called _ _ _)
    exact unreserved ((closed.status connectorId).mp reserved)
  cases ended with
  | unknown => exact ⟨rfl, rfl, rfl, rfl, rfl, rfl, fun _ => Iff.rfl⟩
  | unclosed connectorId active _ _ closing => exact closing.sameBooks
  | unfinished connectorId active u closing answer => exact closing.sameBooks.trans (sameBooks_called _ _ _)
  | unavailable connectorId active u closing finished answer =>
      have reported := closing.available_made config finished answer
      exact freed connectorId u finished answer closing (free connectorId active ⟨answer, reported⟩)
  | stopped connectorId active u closing finished response _ drained =>
      have reported := closing.available_made config finished (.replied response)
      obtain ⟨_, _, _, _, rfl⟩ := drained
      have reached := freed connectorId u finished (.replied response) closing
        (free connectorId active ⟨_, reported⟩)
      exact ⟨reached.reservations, reached.reservedFor, reached.timers, reached.expiryTimers,
        reached.reservationOf, reached.timersArmed, reached.status⟩

/-! ## Making and dropping reservations -/

namespace Books

variable {config} {s : Station} (inv : Books config s)
include inv

theorem unreserved {connectorId : Nat} (free : s.status connectorId ≠ .reserved) :
    s.Unreserved connectorId := by
  refine ⟨free, fun id held => ?_⟩
  exact free ((inv.reserved connectorId (inv.known id connectorId held)).mpr ⟨id, held⟩)

theorem accept (idTag : String) {reservationId : Int} {connectorId : Nat}
    (fresh : s.reservations.lookup reservationId = none) (known : connectorId ∈ config.connectors)
    (available : s.status connectorId = .available) :
    Books config (s.accept reservationId connectorId idTag) := by
  have free := (inv.unreserved (by simp [available] : s.status connectorId ≠ .reserved)).2
  -- the new reservation is the one on the connector, every other one is where it was
  have lookup : ∀ id target, (s.accept reservationId connectorId idTag).reservations.lookup id = some target ↔
      id = reservationId ∧ target = connectorId ∨
        id ≠ reservationId ∧ s.reservations.lookup id = some target := by
    intro id target
    by_cases here : id = reservationId
    · subst here
      simp [Station.accept, Station.enqueue, Station.insertReservation, eq_comm]
    · simp [Station.accept, Station.enqueue, Station.insertReservation, Station.setStatus,
        Station.setReservedFor, here]
  have elsewhere : ∀ id target, s.reservations.lookup id = some target → id ≠ reservationId := by
    rintro id target held rfl
    rw [fresh] at held
    cases held
  constructor
  · intro target listed
    by_cases here : target = connectorId
    · subst here
      refine iff_of_true (Function.update_self ..) ⟨reservationId, ?_⟩
      exact (lookup reservationId target).mpr (Or.inl ⟨rfl, rfl⟩)
    · have status : (s.accept reservationId connectorId idTag).status target = s.status target :=
        Function.update_of_ne here _ _
      rw [status, inv.reserved target listed]
      refine exists_congr fun id => ?_
      rw [lookup]
      constructor
      · intro held
        exact Or.inr ⟨elsewhere id target held, held⟩
      · rintro (⟨-, same⟩ | ⟨-, held⟩)
        · exact absurd same here
        · exact held
  · intro target listed
    by_cases here : target = connectorId
    · subst here
      simp [Station.accept, Station.enqueue, Station.insertReservation, Station.setStatus,
        Station.setReservedFor]
    · simpa [Station.accept, Station.enqueue, Station.insertReservation, Station.setStatus,
        Station.setReservedFor, here] using inv.holder target listed
  · intro id id' target held held'
    rw [lookup] at held held'
    rcases held with ⟨rfl, rfl⟩ | ⟨-, held⟩ <;> rcases held' with ⟨rfl, here⟩ | ⟨-, held'⟩
    · rfl
    · exact absurd held' (free id')
    · exact absurd (here ▸ held) (free id)
    · exact inv.distinct id id' target held held'
  · intro id target held
    rw [lookup] at held
    rcases held with ⟨-, rfl⟩ | ⟨-, held⟩
    · exact known
    · exact inv.known id target held
  · intro handle timer found
    obtain ⟨held, number, listed, earlier⟩ := inv.timers handle timer found
    have other := elsewhere _ _ held
    refine ⟨(lookup _ _).mpr (Or.inr ⟨other, held⟩), ?_, listed, earlier⟩
    exact (Function.update_of_ne other _ _).trans number

theorem armTimer {timer : ReservationTimer}
    (held : s.reservations.lookup timer.reservationId = some timer.connectorId)
    (number : s.reservationOf timer.reservationId = timer.reservation)
    (untimed : ∀ handle other, s.timers.lookup handle = some other →
      other.reservationId ≠ timer.reservationId) : Books config (s.armTimer timer) := by
  refine ⟨inv.reserved, inv.holder, inv.distinct, inv.known, fun handle other found => ?_⟩
  have handles : ∀ id, id ≠ timer.reservationId → (s.armTimer timer).expiryTimers.lookup id =
      (s.expiryTimers.lookup id).filter fun handle => (s.timers.lookup handle).isSome := by
    intro id different
    exact (AList.lookup_insert_ne different).trans (HashMap.lookup_retain _ _ _)
  by_cases new : handle = s.timersArmed
  · subst new
    obtain rfl : timer = other := by simpa [Station.armTimer] using found
    refine ⟨held, number, by simp [Station.armTimer], Nat.lt_succ_self _⟩
  · have before : s.timers.lookup handle = some other := by
      have kept := (AList.lookup_insert_ne new).symm.trans found
      split at kept
      · exact HashMap.lookup_of_erase kept
      · exact kept
    obtain ⟨heldOther, numberOther, listed, earlier⟩ := inv.timers handle other before
    refine ⟨heldOther, numberOther, ?_, Nat.lt_succ_of_lt earlier⟩
    rw [handles _ (untimed handle other before), listed]
    simp [before]

theorem dropped {t : Station} {reservationId : Int} {connectorId : Nat}
    (held : s.reservations.lookup reservationId = some connectorId)
    (reservations : t.reservations = s.reservations.erase reservationId)
    (reservedFor : t.reservedFor = Function.update s.reservedFor connectorId none)
    (status : t.status = Function.update s.status connectorId .available)
    (timers : ∀ handle timer, t.timers.lookup handle = some timer →
      s.timers.lookup handle = some timer ∧ timer.reservationId ≠ reservationId)
    (expiryTimers : ∀ id, id ≠ reservationId → t.expiryTimers.lookup id = s.expiryTimers.lookup id)
    (reservationOf : t.reservationOf = s.reservationOf) (timersArmed : t.timersArmed = s.timersArmed) :
    Books config t := by
  have lookup : ∀ id target, t.reservations.lookup id = some target ↔
      id ≠ reservationId ∧ s.reservations.lookup id = some target := by
    intro id target
    rw [reservations]
    exact HashMap.lookup_erase_eq_some
  constructor
  · intro target listed
    rw [status]
    by_cases here : target = connectorId
    · subst here
      refine iff_of_false (by simp) ?_
      rintro ⟨id, found⟩
      obtain ⟨other, found⟩ := (lookup id target).mp found
      exact other (inv.distinct id reservationId target found held)
    · rw [Function.update_of_ne here, inv.reserved target listed]
      refine exists_congr fun id => ?_
      rw [lookup]
      constructor
      · intro found
        refine ⟨?_, found⟩
        rintro rfl
        exact here (Option.some.inj (found.symm.trans held))
      · exact And.right
  · intro target listed
    rw [status, reservedFor]
    by_cases here : target = connectorId
    · subst here
      simp
    · rw [Function.update_of_ne here, Function.update_of_ne here]
      exact inv.holder target listed
  · intro id id' target found found'
    rw [lookup] at found found'
    exact inv.distinct id id' target found.2 found'.2
  · intro id target found
    rw [lookup] at found
    exact inv.known id target found.2
  · intro handle timer found
    obtain ⟨before, other⟩ := timers handle timer found
    obtain ⟨heldTimer, number, listed, earlier⟩ := inv.timers handle timer before
    refine ⟨(lookup _ _).mpr ⟨other, heldTimer⟩, reservationOf ▸ number, ?_, timersArmed ▸ earlier⟩
    rw [expiryTimers _ other, listed]

/-- A held reservation's connector is known and reserved, so releasing it makes it available. -/
theorem release_eq {reservationId : Int} {connectorId : Nat} {u : Station}
    (held : s.reservations.lookup reservationId = some connectorId) (status : u.status = s.status) :
    u.release config connectorId =
      { u with
        reservedFor := Function.update u.reservedFor connectorId none
        status := Function.update u.status connectorId .available } := by
  have known := inv.known reservationId connectorId held
  have reserved := (inv.reserved connectorId known).mpr ⟨reservationId, held⟩
  rw [Station.release, if_pos known, Station.cancel, status, if_pos reserved]

theorem cancel {t : Station} {reservationId : Int} (ended : CancelOutcome config reservationId s t) :
    Books config t := by
  cases ended with
  | unknown absent =>
      have same : s.reservations.erase reservationId = s.reservations := by
        refine AList.ext (List.kerase_of_notMem_keys ?_)
        exact fun member => by simpa [absent] using AList.lookup_isSome.mpr (AList.mem_keys.mpr member)
      rw [Station.removeReservation, same]
      exact inv
  | cancelled connectorId held commands =>
      have removed : (s.removeReservation reservationId).removeTimers [reservationId] =
          (s.removeReservation reservationId).removeTimer reservationId := rfl
      rw [removed, Station.removeTimer]
      split
      case h_1 handle listed =>
        rw [inv.release_eq held (by rfl)]
        refine inv.dropped held rfl rfl rfl (fun handle' timer found => ?_) ?_ rfl rfl
        · refine ⟨HashMap.lookup_of_erase found, ?_⟩
          rintro rfl
          have listed' := (inv.timers handle' timer (HashMap.lookup_of_erase found)).listed
          obtain rfl := Option.some.inj (listed'.symm.trans listed)
          simp [Station.removeReservation] at found
        · intro id other
          exact AList.lookup_erase_ne other
      case h_2 unlisted =>
        rw [inv.release_eq held (by rfl)]
        refine inv.dropped held rfl rfl rfl (fun handle timer found => ⟨found, ?_⟩) (fun _ _ => rfl)
          rfl rfl
        rintro rfl
        cases (inv.timers handle timer found).listed.symm.trans unlisted

theorem expire {t : Station} {handle : Nat} {timer : ReservationTimer}
    (sleeping : s.timers.lookup handle = some timer)
    (ended : ExpireOutcome config timer { s with timers := s.timers.erase handle } t) :
    Books config t := by
  obtain ⟨held, -, listed, -⟩ := inv.timers handle timer sleeping
  cases ended with
  | gone other => exact absurd held other
  | expired _ commands =>
      rw [inv.release_eq held (by rfl)]
      refine inv.dropped held rfl rfl rfl (fun handle' timer' found => ?_) (fun _ _ => rfl) rfl rfl
      refine ⟨HashMap.lookup_of_erase found, fun same => ?_⟩
      have listed' := (inv.timers handle' timer' (HashMap.lookup_of_erase found)).listed
      rw [same, listed, Option.some.injEq] at listed'
      subst listed'
      exact absurd found (by simp [Station.removeReservation])

theorem reserve {t : Station} {reservationId : Int} {idTag : String} {acceptable : Nat → Prop}
    (vacant : ∀ connectorId, acceptable connectorId →
      connectorId ∈ config.connectors ∧ s.status connectorId = .available)
    (fresh : ∀ connectorId, acceptable connectorId → s.reservations.lookup reservationId = none)
    (ended : ReserveOutcome acceptable reservationId idTag s t) : Books config t := by
  cases ended with
  | refused => exact inv
  | accepted connectorId permitted =>
      exact inv.accept idTag (fresh connectorId permitted) (vacant connectorId permitted).1
        (vacant connectorId permitted).2
  | timed connectorId permitted =>
      have unheld := fresh connectorId permitted
      have accepted := inv.accept idTag unheld (vacant connectorId permitted).1
        (vacant connectorId permitted).2
      refine accepted.armTimer (AList.lookup_insert _) (Function.update_self ..) ?_
      rintro handle other found rfl
      cases (inv.timers handle other found).held.symm.trans unheld

end Books

/-! ## Runs -/

/-- The conditions on the calls: an accepted reservation is made under an id that is not held, and no
start energises and no stop frees a connector that is reserved. -/
def KeepsBooks (s : Station) (completion : Completion) : Prop :=
  match completion.call with
  | .v16jReserveNow now req => (∃ connectorId, req.Acceptable config now s connectorId) →
      s.reservations.lookup req.reservationId = none
  | .v201ReserveNow now req => (∃ connectorId, req.Acceptable config rfc now s connectorId) →
      s.reservations.lookup req.id = none
  | .startTransaction connectorId _ _ => ∀ t answer, s.complete config rfc completion = some t →
      (.statusNotification connectorId .charging, answer) ∈ s.made t → s.status connectorId ≠ .reserved
  | .stopTransaction transactionId _ _ => ∀ t connectorId answer,
      s.complete config rfc completion = some t →
      s.activeTransactions.lookup transactionId = some connectorId →
      (available connectorId, answer) ∈ s.made t → s.status connectorId ≠ .reserved
  | .cancelReservation _ | .expire .. => True
  | _ => False

/-- A timer removes a reservation only if it was armed for it. -/
def ExpiresOwn (s : Station) (completion : Completion) : Prop :=
  match completion.call with
  | .expire _ timer => ∀ t reservationId, s.complete config rfc completion = some t →
      s.reservations.lookup reservationId ≠ none → t.reservations.lookup reservationId = none →
        reservationId = timer.reservationId ∧ s.reservationOf reservationId = timer.reservation
  | _ => True

/-- A timer that fires was asleep, and is taken from the timers before it runs. -/
theorem expire_outcome {s t : Station} {handle : Nat} {timer : ReservationTimer} {choices : List Choice}
    (completed : s.complete config rfc ⟨.expire handle timer, choices⟩ = some t) :
    s.timers.lookup handle = some timer ∧
      ExpireOutcome config timer { s with timers := s.timers.erase handle } t := by
  obtain ⟨u, outcome, started, ended⟩ := Station.complete_eq_some config rfc completed
  have permitted := (Option.ite_none_left_eq_some.mp started).2
  obtain ⟨⟨-, sleeping⟩, taken⟩ := Option.ite_none_right_eq_some.mp permitted
  obtain ⟨-, rfl⟩ := Prod.mk.inj (Option.some.inj taken)
  exact ⟨sleeping, post_of_eval (expireReservation_outcome config timer _) ended⟩

theorem Books.step {s t : Station} {completion : Completion} (inv : Books config s)
    (keeps : KeepsBooks config rfc s completion)
    (completed : s.complete config rfc completion = some t) : Books config t := by
  obtain ⟨call, choices⟩ := completion
  cases call with
  | startTransaction connectorId idTag meterStart =>
      obtain ⟨outcome, ended⟩ := drive_outcome config rfc completed trivial
      refine inv.of_same config (ended.sameBooks config ?_)
      rintro ⟨answer, reported⟩
      exact inv.unreserved (keeps t answer completed reported)
  | stopTransaction transactionId meterStop reason =>
      obtain ⟨outcome, ended⟩ := drive_outcome config rfc completed trivial
      refine inv.of_same config (ended.sameBooks config ?_)
      rintro connectorId active ⟨answer, reported⟩
      exact keeps t connectorId answer completed active reported
  | v16jReserveNow now req =>
      obtain ⟨outcome, ran⟩ := Station.complete_fresh config rfc completed trivial
      have ended := post_of_eval (wp_discard (v16jReserveNow_outcome config now req s)) ran
      exact inv.reserve (fun _ permitted => permitted.2.2)
        (fun connectorId permitted => keeps ⟨connectorId, permitted⟩) ended
  | v201ReserveNow now req =>
      obtain ⟨outcome, ran⟩ := Station.complete_fresh config rfc completed trivial
      have ended := post_of_eval (wp_discard (v201ReserveNow_outcome config rfc now req s)) ran
      exact inv.reserve (fun _ permitted => permitted.2.2)
        (fun connectorId permitted => keeps ⟨connectorId, permitted⟩) ended
  | cancelReservation reservationId =>
      obtain ⟨outcome, ran⟩ := Station.complete_fresh config rfc completed trivial
      exact inv.cancel
        (post_of_eval (wp_discard (cancelReservationRequest_outcome config reservationId s)) ran)
  | expire handle timer =>
      obtain ⟨sleeping, ended⟩ := expire_outcome config rfc completed
      exact inv.expire sleeping ended
  | _ => exact keeps.elim

theorem Books.expiresOwn {s : Station} {completion : Completion} (inv : Books config s) :
    ExpiresOwn config rfc s completion := by
  obtain ⟨call, choices⟩ := completion
  cases call with
  | expire handle timer =>
      intro t id completed held gone
      obtain ⟨sleeping, ended⟩ := expire_outcome config rfc completed
      have armed := inv.timers handle timer sleeping
      cases ended with
      | gone other => exact absurd armed.held other
      | expired _ commands =>
          rw [inv.release_eq armed.held (by rfl)] at gone
          by_cases own : id = timer.reservationId
          · exact ⟨own, own ▸ armed.number⟩
          · exact absurd ((AList.lookup_erase_ne own).symm.trans gone) held
  | _ => trivial

theorem books_new : Books config Station.new := by
  constructor
  · intro connectorId _
    simp [Station.new]
  · intro connectorId _
    simp [Station.new]
  · intro id id' connectorId held
    simp [Station.new] at held
  · intro id connectorId held
    simp [Station.new] at held
  · intro handle timer found
    simp [Station.new] at found

/-- In every run of completed calls that meet the conditions the books are exact in every state, and a
reservation that a timer removes is the one the timer was armed for. -/
theorem reservation_books_exact {completions : List Completion}
    (along : Along (Station.complete config rfc) (KeepsBooks config rfc) Station.new completions) :
    Along (Station.complete config rfc)
        (fun s completion => BooksExact config s ∧ ExpiresOwn config rfc s completion)
        Station.new completions ∧
      ∀ s, run (Station.complete config rfc) Station.new completions = some s → BooksExact config s := by
  have kept : ∀ s completion t, Books config s → KeepsBooks config rfc s completion →
      s.complete config rfc completion = some t → Books config t :=
    fun _ _ _ inv keeps completed => inv.step config rfc keeps completed
  constructor
  · exact along.of_invariant kept (fun s _ inv _ => ⟨inv.exact, inv.expiresOwn config rfc⟩)
      (books_new config)
  · intro s ran
    exact (run_invariant kept (books_new config) along ran).exact

/-! ## A start on a reserved connector -/

def reserveOnOne : Completion :=
  ⟨.v16jReserveNow ⟨0⟩ ⟨1, ⟨10⟩, "TAG", 5⟩, List.replicate 7 .none⟩

def expireOnOne : Completion :=
  ⟨.expire 0 ⟨5, 1, 0⟩, List.replicate 6 .none⟩

theorem expired_books_exact :
    ∃ s, run (Station.complete (simulator .v16j) noDates) Station.new [reserveOnOne, expireOnOne] = some s ∧
      s.reservations.lookup 5 = none ∧ BooksExact (simulator .v16j) s := by
  have reached : (run (Station.complete (simulator .v16j) noDates) Station.new
      [reserveOnOne, expireOnOne]).map (·.reservations.lookup 5) = some none := rfl
  obtain ⟨s, ran, gone⟩ := Option.map_eq_some_iff.mp reached
  refine ⟨s, ran, gone, (reservation_books_exact (simulator .v16j) noDates ?_).2 s ran⟩
  exact ⟨fun _ => rfl, fun t _ => ⟨trivial, fun _ _ => trivial⟩⟩

def startOnOne : Completion :=
  ⟨.startTransaction 1 "TAG" 0, [.pick none, answered 0, answered 7, .none, .none, .none, .none, answered 0,
    .none]⟩

theorem consumed_books_wrong :
    ∃ s, run (Station.complete (simulator .v16j) noDates) Station.new [reserveOnOne, startOnOne] = some s ∧
      ¬BooksExact (simulator .v16j) s := by
  have reached : (run (Station.complete (simulator .v16j) noDates) Station.new
      [reserveOnOne, startOnOne]).map (fun s => ((s.reservedFor 1).isSome, s.status 1)) =
        some (true, .charging) := rfl
  obtain ⟨s, ran, found⟩ := Option.map_eq_some_iff.mp reached
  obtain ⟨holder, status⟩ := Prod.mk.inj found
  refine ⟨s, ran, fun books => ?_⟩
  have reserved := (books.holder 1 (by decide)).mp holder
  rw [status] at reserved
  cases reserved

end Ocpp.ChargePoint
