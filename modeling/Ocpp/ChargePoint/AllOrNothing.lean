import Ocpp.ChargePoint.Outcomes

/-!
# Starts and stops that return early

Every CALL of a start and of a stop can fail, and `?` then returns with what has been changed so far. A
start that fails leaves no trace unless it had already authorized a session or reported the connector as
charging; a stop of a 2.0.1 transaction that fails leaves it half closed unless only the last report is
missing.
-/

namespace Ocpp.ChargePoint
open Library Library.Program V16j V201

variable (config : Config)

/-- The CALL a failed call ended with. -/
def Station.lastCall (t : Station) : Option Request :=
  t.calls.getLast?.map (·.1)

structure Unchanged (s t : Station) : Prop where
  active : ∀ transactionId, t.activeTransactions.lookup transactionId =
    s.activeTransactions.lookup transactionId
  sessions : ∀ transactionId, t.v201Sessions.lookup transactionId = s.v201Sessions.lookup transactionId
  cells : ∀ transactionId, (s.v201Sessions.lookup transactionId).isSome →
    t.cells transactionId = s.cells transactionId
  profiles : ∀ evseId, t.v201TxProfiles.lookup evseId = s.v201TxProfiles.lookup evseId
  reservations : ∀ reservationId, t.reservations.lookup reservationId =
    s.reservations.lookup reservationId
  status : ∀ connectorId, t.status connectorId = s.status connectorId

/-! ## Starts -/

/-- The station already was in the state that opening this transaction leads to. -/
def Station.AlreadyOpen (s : Station) (connectorId : Nat) (idTag : String) (transactionId : Int) :
    Prop :=
  s.activeTransactions.lookup transactionId = some connectorId ∧
    (config.protocolVersion = .v201 →
      s.v201Sessions.lookup transactionId = some ⟨idTag, false, none⟩ ∧
        s.cells transactionId = ⟨1, true, .charging, false⟩) ∧
    (∀ reservationId, s.reservations.lookup reservationId ≠ some connectorId) ∧
    (connectorId ∈ config.connectors → s.status connectorId = .charging)

/-- The CSMS accepted the transaction as a new one. -/
def Opens (connectorId : Nat) (idTag : String) (meterStart : Int) (made : List (Request × Answer))
    (transactionId : Int) : Prop :=
  match config.protocolVersion with
  | .v16j => ∃ response, (.startTransaction connectorId idTag meterStart, .replied response) ∈ made ∧
      response.transactionId = transactionId
  | .v201 => ∃ answer, (.transactionEvent (transactionEventStarted transactionId connectorId idTag none),
      answer) ∈ made

/-- The CALL that failed is neither the one that reports the authorization of a plugged session nor the
one that reports the connector as charging, unless the station was in the resulting state before. -/
def StartUndone (connectorId : Nat) (idTag : String) (meterStart : Int) (s t : Station) : Prop :=
  (∀ request ∈ t.lastCall, ¬request.Updates) ∧
    (t.lastCall = some (.statusNotification connectorId .charging) → ∃ transactionId,
      Opens config connectorId idTag meterStart (s.made t) transactionId ∧
        s.AlreadyOpen config connectorId idTag transactionId)

theorem wrappingSucc_ne (n : Int) : wrappingSucc n ≠ n := by
  intro same
  rw [wrappingSucc, BitVec.toInt_ofInt] at same
  have residue := Int.bmod_emod (x := n + 1) (m := 2 ^ 32)
  rw [same] at residue
  omega

@[simp] theorem Station.lastCall_called (s : Station) (request : Request) (answer : Answer) :
    (s.called request answer).lastCall = some request := by
  simp [lastCall, called]

/-- What a start that opens a transaction shows of itself: the transaction, its session, the
reservations it consumes and the status of its connector. -/
theorem unchanged_iff (connectorId : Nat) (transactionId : Int) {s t : Station}
    (active : t.activeTransactions = s.activeTransactions.insert transactionId connectorId)
    (profiles : t.v201TxProfiles = s.v201TxProfiles)
    (reservations : t.reservations = s.reservations.retain fun _ held => held ≠ connectorId)
    (status : t.status = if connectorId ∈ config.connectors then
      Function.update s.status connectorId .charging else s.status) :
    Unchanged s t ↔ s.activeTransactions.lookup transactionId = some connectorId ∧
      ((∀ tid, t.v201Sessions.lookup tid = s.v201Sessions.lookup tid) ∧
        ∀ tid, (s.v201Sessions.lookup tid).isSome → t.cells tid = s.cells tid) ∧
      (∀ reservationId, s.reservations.lookup reservationId ≠ some connectorId) ∧
      (connectorId ∈ config.connectors → s.status connectorId = .charging) := by
  have recorded := HashMap.lookup_insert_same_iff s.activeTransactions transactionId connectorId
  have consumed := HashMap.lookup_retain_same_iff s.reservations fun _ held => held ≠ connectorId
  have charging : (∀ c, t.status c = s.status c) ↔
      (connectorId ∈ config.connectors → s.status connectorId = .charging) := by
    rw [← funext_iff, status]
    split_ifs with known
    · simp [known, eq_comm]
    · simp [known]
  have free : (∀ id held, s.reservations.lookup id = some held → decide (held ≠ connectorId) = true) ↔
      ∀ id, s.reservations.lookup id ≠ some connectorId := by
    simp only [decide_eq_true_eq]
    exact ⟨fun free id held => free id connectorId held rfl,
      fun free id held found same => free id (same ▸ found)⟩
  rw [← recorded, ← free, ← consumed, ← charging, ← active, ← reservations]
  constructor
  · intro same
    exact ⟨same.active, ⟨same.sessions, same.cells⟩, same.reservations, same.status⟩
  · rintro ⟨sameActive, ⟨sameSessions, sameCells⟩, sameReservations, sameStatus⟩
    exact ⟨sameActive, sameSessions, sameCells, fun _ => by rw [profiles], sameReservations, sameStatus⟩

theorem unchanged_opened_iff {connectorId : Nat} {idTag : String} {meterStart : Int}
    {transactionId : Int} {prepared : Response} {s u : Station}
    (opening : OpenOutcome config connectorId idTag meterStart
      (s.called (preparing connectorId) (.replied prepared)) (.ok transactionId) u) (answer : Answer) :
    Unchanged s (((u.insertActive transactionId connectorId).energize config connectorId).called
        (.statusNotification connectorId .charging) answer) ↔
      s.AlreadyOpen config connectorId idTag transactionId := by
  obtain ⟨expiryTimers, timers, energized⟩ :=
    (u.insertActive transactionId connectorId).energize_eq config connectorId
  rw [energized]
  cases opening with
  | v16jAccepted v16j response =>
      refine Iff.trans (unchanged_iff config connectorId response.transactionId ?_ ?_ ?_ ?_) ?_
      iterate 4 rfl
      refine and_congr_right fun _ => and_congr_left fun _ => ?_
      simp [v16j, Station.called, Station.insertActive]
  | v201Accepted v201 response =>
      refine Iff.trans (unchanged_iff config connectorId s.nextV201TransactionId ?_ ?_ ?_ ?_) ?_
      iterate 4 rfl
      refine and_congr_right fun _ => and_congr_left fun _ => ?_
      have listed := HashMap.lookup_insert_same_iff s.v201Sessions s.nextV201TransactionId
        ⟨idTag, false, none⟩
      refine (and_congr listed Iff.rfl).trans ?_
      simp only [v201, forall_const]
      refine and_congr_right fun held => ?_
      constructor
      · intro same
        have cell := same s.nextV201TransactionId (by simp [held])
        simpa [Station.called, Station.mintTransactionId, Station.insertSession, Station.insertActive]
          using cell.symm
      · intro cell tid _
        by_cases minted : tid = s.nextV201TransactionId
        · subst minted
          simpa [Station.called, Station.mintTransactionId, Station.insertSession,
            Station.insertActive] using cell.symm
        · simp [Station.called, Station.mintTransactionId, Station.insertSession, Station.insertActive,
            minted]

theorem opens_iff {connectorId : Nat} {idTag : String} {meterStart : Int} {transactionId tid : Int}
    {prepared : Response} {s u : Station}
    (opening : OpenOutcome config connectorId idTag meterStart
      (s.called (preparing connectorId) (.replied prepared)) (.ok transactionId) u) (answer : Answer) :
    Opens config connectorId idTag meterStart
        (s.made (((u.insertActive transactionId connectorId).energize config connectorId).called
          (.statusNotification connectorId .charging) answer)) tid ↔ tid = transactionId := by
  cases opening with
  | v16jAccepted v16j response => simp [Opens, v16j, Station.made, preparing, eq_comm]
  | v201Accepted v201 response =>
      simp [Opens, v201, Station.made, preparing, Station.startedEvent, transactionEventStarted]

theorem unchanged_called (s : Station) (request : Request) (answer : Answer) :
    Unchanged s (s.called request answer) :=
  ⟨fun _ => rfl, fun _ => rfl, fun _ _ => rfl, fun _ => rfl, fun _ => rfl, fun _ => rfl⟩

theorem Unchanged.trans {s t u : Station} (first : Unchanged s t) (second : Unchanged t u) :
    Unchanged s u where
  active tid := (second.active tid).trans (first.active tid)
  sessions tid := (second.sessions tid).trans (first.sessions tid)
  cells tid listed := (second.cells tid (by rwa [first.sessions])).trans (first.cells tid listed)
  profiles evseId := (second.profiles evseId).trans (first.profiles evseId)
  reservations id := (second.reservations id).trans (first.reservations id)
  status connectorId := (second.status connectorId).trans (first.status connectorId)

theorem unchanged_notOpened {connectorId : Nat} {idTag : String} {meterStart : Int} {s t : Station}
    {error : OcppError} (opening : OpenOutcome config connectorId idTag meterStart s (.error error) t) :
    Unchanged s t ∧ t.lastCall ≠ some (.statusNotification connectorId .charging) ∧
      ∀ request ∈ t.lastCall, ¬request.Updates := by
  have minted : Unchanged s s.mintTransactionId :=
    ⟨fun _ => rfl, fun _ => rfl, fun _ _ => rfl, fun _ => rfl, fun _ => rfl, fun _ => rfl⟩
  cases opening with
  | v16jUnanswered v16j answer _ fails =>
      exact ⟨unchanged_called _ _ _, by simp, by simp [Request.Updates]⟩
  | v16jRejected v16j response => exact ⟨unchanged_called _ _ _, by simp, by simp [Request.Updates]⟩
  | v201Unanswered v201 answer _ fails =>
      refine ⟨minted.trans (unchanged_called _ _ _), by simp [Station.startedEvent], ?_⟩
      simp [Station.startedEvent, Request.Updates, transactionEventStarted]
  | v201Rejected v201 response =>
      refine ⟨minted.trans (unchanged_called _ _ _), by simp [Station.startedEvent], ?_⟩
      simp [Station.startedEvent, Request.Updates, transactionEventStarted]

theorem start_undone_iff {connectorId : Nat} {idTag : String} {meterStart : Int} {s t : Station}
    {error : OcppError} (ended : StartOutcome config connectorId idTag meterStart s (.error error) t) :
    Unchanged s t ↔ StartUndone config connectorId idTag meterStart s t := by
  cases ended with
  | notPrepared answer _ fails =>
      refine iff_of_true (unchanged_called _ _ _) ⟨?_, ?_⟩
      · simp [preparing, Request.Updates]
      · simp [preparing]
  | notAuthorized transactionId plugged prepared answer _ fails =>
      obtain ⟨-, session, listed, -⟩ := plugged
      refine iff_of_false (fun same => ?_) fun undone => ?_
      · have cell := same.cells transactionId (by simp [listed])
        have seqNo := congrArg SessionCell.nextSeqNo cell
        simp only [Station.called, Station.claim, Station.setCell, Function.update_self] at seqNo
        exact wrappingSucc_ne _ seqNo
      · exact undone.1 _ (Station.lastCall_called _ _ _) rfl
  | folded transactionId plugged connected prepared authorized outcome _ energized ended =>
      obtain ⟨-, session, listed, -⟩ := plugged
      cases energized with
      | energized response => cases ended
      | unreported answer _ fails =>
          have folded := Station.fold_eq connectorId idTag transactionId prepared authorized listed
          refine iff_of_false (fun same => ?_) fun undone => ?_
          · have cell := same.cells transactionId (by simp [listed])
            have state := congrArg SessionCell.chargingState cell
            simp [Station.called, folded, connected] at state
          · obtain ⟨tid, opens, -⟩ := undone.2 (Station.lastCall_called _ _ _)
            cases version : config.protocolVersion with
            | v16j =>
                simp [Opens, version, Station.made, folded, preparing, Station.authorizedEvent] at opens
            | v201 =>
                simp [Opens, version, Station.made, folded, preparing, Station.authorizedEvent,
                  transactionEventStarted, transactionEventStateTransition] at opens
  | notOpened prepared _ _ opening =>
      obtain ⟨same, notCharging, notUpdates⟩ := unchanged_notOpened config opening
      refine iff_of_true ((unchanged_called _ _ _).trans same) ⟨notUpdates, fun charging => ?_⟩
      exact absurd charging notCharging
  | opened prepared transactionId u opening outcome _ energized ended =>
      cases energized with
      | energized response => cases ended
      | unreported answer _ fails =>
          rw [unchanged_opened_iff config opening answer]
          simp [StartUndone, Request.Updates, opens_iff config opening answer]

/-! ## Stops -/

structure FullyClosed (connectorId : Nat) (transactionId : Int) (t : Station) : Prop where
  active : t.activeTransactions.lookup transactionId = none
  session : t.v201Sessions.lookup transactionId = none
  profile : t.v201TxProfiles.lookup (connectorId : Int) = none
  status : connectorId ∈ config.connectors → t.status connectorId ≠ .charging

def Request.Closes (transactionId : Int) : Request → Prop
  | stopTransaction closed _ _ => closed = transactionId
  | transactionEvent event => event.eventType = .ended ∧ event.transactionId = transactionId
  | _ => False

structure FullyOpen (connectorId : Nat) (transactionId : Int) (s t : Station) : Prop where
  active : t.activeTransactions.lookup transactionId = some connectorId
  session : t.v201Sessions.lookup transactionId = s.v201Sessions.lookup transactionId
  cell : t.cells transactionId = s.cells transactionId
  profile : t.v201TxProfiles.lookup (connectorId : Int) = s.v201TxProfiles.lookup (connectorId : Int)
  closable : ∀ meterStop reason choices outcome u,
    (stopTransaction config transactionId meterStop reason).eval exec choices t = some (outcome, u) →
      ∃ entry ∈ t.made u, entry.1.Closes transactionId

/-- The CALL that failed is the last one of a 2.0.1 stop, or any one of a 1.6J stop; a 1.6J station has
no session and no profile to leave behind. -/
def StopUndone (connectorId : Nat) (transactionId : Int) (s t : Station) : Prop :=
  match config.protocolVersion with
  | .v16j => t.lastCall = some (available connectorId) →
      s.v201Sessions.lookup transactionId = none ∧ s.v201TxProfiles.lookup (connectorId : Int) = none
  | .v201 => t.lastCall = some (available connectorId)

theorem unclosable_of_absent {connectorId : Nat} {transactionId : Int} {t : Station}
    (v201 : config.protocolVersion = .v201)
    (active : t.activeTransactions.lookup transactionId = some connectorId)
    (absent : t.v201Sessions.lookup transactionId = none) :
    ¬∀ meterStop reason choices outcome u,
      (stopTransaction config transactionId meterStop reason).eval exec choices t = some (outcome, u) →
        ∃ entry ∈ t.made u, entry.1.Closes transactionId := by
  intro closable
  have refused : (stopTransaction config transactionId 0 .local).eval exec
      [.none, .none, .none, .none, .answer (.refused (.timeout "CALL"))] t = some (.error (.timeout "CALL"),
        (t.tearDown connectorId transactionId).called (finishing connectorId)
          (.refused (.timeout "CALL"))) := by
    simp [stopTransaction, closeTransaction, v201, act, exec, active, absent, Station.stopSampler,
      Station.clearTxProfile]
    rfl
  obtain ⟨entry, made, closes⟩ := closable 0 .local _ _ _ refused
  obtain rfl : entry = (finishing connectorId, .refused (.timeout "CALL")) := by
    simpa [Station.made, Station.tearDown, Station.removeSession, Station.clearTxProfile,
      Station.stopSampler] using made
  exact closes

theorem closes_of_stop {transactionId meterStop : Int} {reason : Reason} {s t : Station}
    {outcome : Except OcppError Unit} (v16j : config.protocolVersion = .v16j)
    (active : s.activeTransactions.lookup transactionId ≠ none)
    (ended : StopOutcome config transactionId meterStop reason s outcome t) :
    ∃ entry ∈ s.made t, entry.1.Closes transactionId := by
  have closed : ∀ connectorId outcome u,
      CloseOutcome config connectorId transactionId meterStop reason s outcome u →
        ∃ answer, u.calls = s.calls ++ [(Request.stopTransaction transactionId meterStop reason, answer)] := by
    intro connectorId outcome u closing
    cases closing with
    | v16jUnanswered _ answer => exact ⟨answer, rfl⟩
    | v16jClosed _ response => exact ⟨_, rfl⟩
    | v201Absent v201 | v201Unanswered v201 | v201Closed v201 => rw [v16j] at v201; cases v201
  cases ended with
  | unknown unlisted => exact absurd unlisted active
  | unclosed connectorId _ error _ closing =>
      obtain ⟨answer, calls⟩ := closed connectorId _ t closing
      exact ⟨(.stopTransaction transactionId meterStop reason, answer), by simp [Station.made, calls], rfl⟩
  | unfinished connectorId _ u closing =>
      obtain ⟨answer, calls⟩ := closed connectorId _ u closing
      exact ⟨(.stopTransaction transactionId meterStop reason, answer), by simp [Station.made, calls], rfl⟩
  | unavailable connectorId _ u closing =>
      obtain ⟨answer, calls⟩ := closed connectorId _ u closing
      exact ⟨(.stopTransaction transactionId meterStop reason, answer),
        by simp [Station.made, Station.free_eq, calls], rfl⟩
  | stopped connectorId _ u closing _ _ _ drained =>
      obtain ⟨answer, calls⟩ := closed connectorId _ u closing
      obtain ⟨_, _, _, _, rfl⟩ := drained
      exact ⟨(.stopTransaction transactionId meterStop reason, answer),
        by simp [Station.made, Station.free_eq, calls], rfl⟩

theorem fullyOpen_called {connectorId : Nat} {transactionId : Int} {s t : Station}
    (v16j : config.protocolVersion = .v16j)
    (active : s.activeTransactions.lookup transactionId = some connectorId)
    (same : ∃ calls, t = { s with calls }) : FullyOpen config connectorId transactionId s t := by
  obtain ⟨calls, rfl⟩ := same
  refine ⟨active, rfl, rfl, rfl, fun meterStop reason choices outcome u ran => ?_⟩
  exact closes_of_stop config v16j (by simp [active])
    (post_of_eval (stopTransaction_outcome config transactionId meterStop reason _) ran)

theorem TornDown.called {connectorId : Nat} {transactionId : Int} {s u : Station}
    (torn : TornDown connectorId transactionId s u) (request : Request) (answer : Answer) :
    TornDown connectorId transactionId s (u.called request answer) :=
  ⟨torn.active, torn.sessions, torn.profiles, torn.samplers, torn.cells, torn.ever, torn.status⟩

/-- A transaction that is still recorded but has lost its session is neither open nor closed. -/
theorem half_closed {connectorId : Nat} {transactionId : Int} {s t : Station}
    (v201 : config.protocolVersion = .v201)
    (active : s.activeTransactions.lookup transactionId = some connectorId)
    (torn : TornDown connectorId transactionId s t) :
    ¬(FullyClosed config connectorId transactionId t ∨ FullyOpen config connectorId transactionId s t) := by
  have recorded : t.activeTransactions.lookup transactionId = some connectorId := by
    rw [torn.active, active]
  have absent : t.v201Sessions.lookup transactionId = none := by
    rw [torn.sessions, AList.lookup_erase]
  rintro (closed | unclosed)
  · rw [closed.active] at recorded
    cases recorded
  · exact unclosable_of_absent config v201 recorded absent unclosed.closable

/-- Once the transaction is no longer recorded, only its session and its profile can keep it open. -/
theorem freed_iff {connectorId : Nat} {transactionId : Int} {s u : Station} {answer : Answer} :
    (FullyClosed config connectorId transactionId
        ((u.free config connectorId transactionId).called (available connectorId) answer) ∨
      FullyOpen config connectorId transactionId s
        ((u.free config connectorId transactionId).called (available connectorId) answer)) ↔
      u.v201Sessions.lookup transactionId = none ∧
        u.v201TxProfiles.lookup (connectorId : Int) = none := by
  rw [Station.free_eq]
  constructor
  · rintro (closed | unclosed)
    · exact ⟨closed.session, closed.profile⟩
    · have active := unclosed.active
      simp [Station.called] at active
  · rintro ⟨session, profile⟩
    refine Or.inl ⟨?_, session, profile, fun known => ?_⟩
    · simp [Station.called]
    · simp [Station.called, known]

theorem stop_undone_iff {connectorId : Nat} {transactionId meterStop : Int} {reason : Reason}
    {s t : Station} {error : OcppError}
    (active : s.activeTransactions.lookup transactionId = some connectorId)
    (ended : StopOutcome config transactionId meterStop reason s (.error error) t) :
    FullyClosed config connectorId transactionId t ∨ FullyOpen config connectorId transactionId s t ↔
      StopUndone config connectorId transactionId s t := by
  cases ended with
  | unknown unlisted =>
      rw [unlisted] at active
      cases active
  | unclosed connectorId' active' _ _ closing =>
      obtain rfl := Option.some.inj (active'.symm.trans active)
      have torn := closing.tornDown config
      cases closing with
      | v16jUnanswered v16j answer =>
          refine iff_of_true (Or.inr (fullyOpen_called config v16j active ⟨_, rfl⟩)) ?_
          simp [StopUndone, v16j, available]
      | v201Unanswered v201 session listed answer =>
          refine iff_of_false (half_closed config v201 active (torn v201)) ?_
          simp [StopUndone, v201, available, Station.endedEvent]
  | unfinished connectorId' active' u closing answer =>
      obtain rfl := Option.some.inj (active'.symm.trans active)
      have torn := closing.tornDown config
      cases closing with
      | v16jClosed v16j response =>
          refine iff_of_true (Or.inr (fullyOpen_called config v16j active ⟨_, rfl⟩)) ?_
          simp [StopUndone, v16j, available, finishing]
      | v201Absent v201 | v201Closed v201 =>
          refine iff_of_false (half_closed config v201 active ((torn v201).called _ _)) ?_
          simp [StopUndone, v201, available, finishing]
  | unavailable connectorId' active' u closing finished answer =>
      obtain rfl := Option.some.inj (active'.symm.trans active)
      rw [freed_iff]
      have torn := closing.tornDown config
      cases closing with
      | v16jClosed v16j response =>
          simp only [StopUndone, v16j, Station.lastCall_called, forall_const]
          exact Iff.rfl
      | v201Absent v201 | v201Closed v201 =>
          have torn := (torn v201).called (finishing connectorId') (.replied finished)
          rw [torn.sessions, torn.profiles]
          simp only [StopUndone, v201, Station.lastCall_called, iff_true]
          exact ⟨AList.lookup_erase _ _, AList.lookup_erase _ _⟩

/-- A start that fails leaves everything as it was, and a stop that fails leaves the transaction either
open or closed, exactly if the CALL that failed is not one of those after which the code has already
changed a part of the state. -/
theorem start_stop_all_or_nothing :
    (∀ connectorId idTag meterStart s choices error t,
      (startTransaction config connectorId idTag meterStart).eval exec choices s =
          some (.error error, t) →
        (Unchanged s t ↔ StartUndone config connectorId idTag meterStart s t)) ∧
    ∀ connectorId transactionId meterStop reason s choices error t,
      s.activeTransactions.lookup transactionId = some connectorId →
        (stopTransaction config transactionId meterStop reason).eval exec choices s =
            some (.error error, t) →
          (FullyClosed config connectorId transactionId t ∨
              FullyOpen config connectorId transactionId s t ↔
            StopUndone config connectorId transactionId s t) := by
  constructor
  · intro connectorId idTag meterStart s choices error t ran
    exact start_undone_iff config
      (post_of_eval (startTransaction_outcome config connectorId idTag meterStart s) ran)
  · intro connectorId transactionId meterStop reason s choices error t active ran
    exact stop_undone_iff config active
      (post_of_eval (stopTransaction_outcome config transactionId meterStop reason s) ran)

def unansweredStart : List Choice :=
  [.pick none, answered 0, lost]

theorem unansweredStart_unchanged : ∃ error t,
    (startTransaction (simulator .v16j) 1 "TAG" 0).eval exec unansweredStart Station.new =
        some (.error error, t) ∧ Unchanged Station.new t := by
  refine ⟨_, _, rfl, ?_⟩
  refine ((start_stop_all_or_nothing (simulator .v16j)).1 1 "TAG" 0 Station.new unansweredStart _ _
    rfl).mpr ⟨?_, ?_⟩
  · rintro request ⟨⟩ ⟨⟩
  · rintro ⟨⟩

def unreportedStart : List Choice :=
  [.pick none, answered 0, .none, answered 0, .none, .none, .none, .none, lost]

theorem unreportedStart_leaves_transaction : ∃ error t,
    (startTransaction (simulator .v201) 1 "TAG" 0).eval exec unreportedStart Station.new =
        some (.error error, t) ∧ ¬Unchanged Station.new t := by
  refine ⟨_, _, rfl, fun same => ?_⟩
  exact absurd (same.active 1) (by decide)

end Ocpp.ChargePoint
