import Ocpp.ChargePoint.Energised
import Ocpp.ChargePoint.EventStream

/-!
# The charging state on the wire

Every `TransactionEvent` carries a charging state, and every session holds one. The frames of a transition
and of an authorization carry the state the session takes; those of the sampler and of a trigger always
say `Charging`. Calls run one after the other, each to its end.
-/

namespace Ocpp.ChargePoint
open Library Library.Program V16j V201

namespace Station

variable (s : Station) (transactionId : Int)

/-- The charging state of the session, as long as the transaction has one. -/
def sessionState : Option ChargingStateEnumType :=
  (s.v201Sessions.lookup transactionId).map fun _ => (s.cells transactionId).chargingState

/-- The charging state of the last frame that went out for the transaction. -/
def lastReported : Option ChargingStateEnumType :=
  (s.stream transactionId).getLast?.map (·.chargingState)

section Updates

variable (tid : Int)

@[simp] theorem called_sessionState (request : Request) (answer : Answer) :
    (s.called request answer).sessionState tid = s.sessionState tid := rfl

@[simp] theorem insertActive_sessionState (connectorId : Nat) :
    (s.insertActive transactionId connectorId).sessionState tid = s.sessionState tid := rfl

@[simp] theorem claim_sessionState :
    (s.claim transactionId).sessionState tid = s.sessionState tid := by
  rw [sessionState, claim_chargingState, sessionState]
  rfl

theorem setState_sessionState (state : ChargingStateEnumType) :
    (s.setState transactionId state).sessionState tid =
      if tid = transactionId then (s.sessionState tid).map fun _ => state else s.sessionState tid := by
  split_ifs with here
  · subst here
    simp [sessionState, setState, setCell, Function.comp_def]
  · simp [sessionState, setState, setCell, here]

theorem insertSession_sessionState (session : V201Session) (cell : SessionCell) :
    (s.insertSession transactionId session cell).sessionState tid =
      if tid = transactionId then some cell.chargingState else s.sessionState tid := by
  split_ifs with here
  · subst here
    simp [sessionState, insertSession]
  · simp [sessionState, insertSession, here]

theorem sessionState_congr {s t : Station} (sessions : t.v201Sessions = s.v201Sessions)
    (cells : t.cells = s.cells) (tid : Int) : t.sessionState tid = s.sessionState tid := by
  rw [sessionState, sessions, cells, sessionState]

end Updates

end Station

/-- What the CSMS was told last is what the session holds. -/
def Synced (s : Station) : Prop :=
  ∀ transactionId state, s.sessionState transactionId = some state → s.lastReported transactionId = some state

/-- Every update sent in between carries the state that its session holds in the end. -/
def UpdatesCurrent (s t : Station) : Prop :=
  ∀ event answer, (.transactionEvent event, answer) ∈ s.made t → event.eventType = .updated →
    t.sessionState event.transactionId = some event.chargingState

/-! ## Frames between two states -/

def Silent (made : List (Request × Answer)) : Prop :=
  ∀ event answer, (.transactionEvent event, answer) ∉ made

theorem Silent.stream {made : List (Request × Answer)} (silent : Silent made) (transactionId : Int) :
    made.filterMap (sentEvent transactionId) = [] := by
  apply List.filterMap_eq_nil_iff.mpr
  rintro ⟨request, answer⟩ member
  cases request with
  | transactionEvent event => exact absurd member (silent event answer)
  | _ => rfl

theorem Station.made_eq {s t : Station} {made : List (Request × Answer)} (calls : t.calls = s.calls ++ made) :
    s.made t = made := by
  rw [Station.made, calls, List.drop_left]

/-- The CALLs of the step tell the CSMS what its sessions hold. -/
structure Tracks (s t : Station) : Prop where
  earlier : ∃ made, t.calls = s.calls ++ made
  updates : UpdatesCurrent s t
  synced : Synced s → Synced t

namespace Tracks

variable {s t u : Station}

theorem silent {made : List (Request × Answer)} (calls : t.calls = s.calls ++ made) (quiet : Silent made)
    (kept : ∀ tid, t.sessionState tid = s.sessionState tid) : Tracks s t where
  earlier := ⟨made, calls⟩
  updates event answer member := by
    rw [Station.made_eq calls] at member
    exact absurd member (quiet event answer)
  synced synced tid state held := by
    have same : t.stream tid = s.stream tid := by
      rw [Station.stream, calls, List.filterMap_append, quiet.stream, List.append_nil, Station.stream]
    rw [Station.lastReported, same]
    exact synced tid state (kept tid ▸ held)

theorem event {event : TransactionEventRequest} {answer : Answer} (transactionId : Int)
    (named : event.transactionId = transactionId) (before after : List (Request × Answer))
    (calls : t.calls = s.calls ++ (before ++ (.transactionEvent event, answer) :: after))
    (quiet : Silent before) (quiet' : Silent after)
    (others : ∀ tid, tid ≠ transactionId → t.sessionState tid = s.sessionState tid)
    (own : t.sessionState transactionId = some event.chargingState ∧
        (answer.Sent ∨ s.sessionState transactionId = some event.chargingState) ∨
      t.sessionState transactionId = none ∧ event.eventType ≠ .updated) : Tracks s t where
  earlier := ⟨_, calls⟩
  updates event' answer' member updated := by
    rw [Station.made_eq calls] at member
    obtain first | rest := List.mem_append.mp member
    · exact absurd first (quiet event' answer')
    obtain same | rest := List.mem_cons.mp rest
    · cases same
      obtain ⟨held, -⟩ | ⟨-, last⟩ := own
      · rw [named, held]
      · exact absurd updated last
    · exact absurd rest (quiet' event' answer')
  synced synced tid state held := by
    have extended : t.stream tid = s.stream tid ++ (sentEvent tid (.transactionEvent event, answer)).toList := by
      rw [Station.stream, calls, List.filterMap_append, List.filterMap_append, quiet.stream, List.nil_append,
        List.filterMap_cons, quiet'.stream, Station.stream]
      cases sentEvent tid (.transactionEvent event, answer) <;> rfl
    rw [Station.lastReported, extended]
    by_cases here : tid = transactionId
    · subst here
      obtain ⟨told, before⟩ | ⟨gone, -⟩ := own
      · rw [held] at told
        by_cases sent : answer.Sent
        · simp [sentEvent, named, sent, told]
        · rw [sentEvent, if_neg fun both => sent both.2, Option.toList_none, List.append_nil]
          exact synced tid state (told ▸ before.resolve_left sent)
      · simp [held] at gone
    · rw [sentEvent, if_neg fun told => here (told.1.symm.trans named), Option.toList_none, List.append_nil]
      exact synced tid state (others tid here ▸ held)

theorem trans (first : Tracks s t) (second : Tracks t u)
    (kept : ∀ event answer, (.transactionEvent event, answer) ∈ s.made t →
      u.sessionState event.transactionId = t.sessionState event.transactionId) : Tracks s u := by
  obtain ⟨made, calls⟩ := first.earlier
  obtain ⟨made', calls'⟩ := second.earlier
  have both : u.calls = s.calls ++ (made ++ made') := by rw [calls', calls, List.append_assoc]
  refine ⟨⟨_, both⟩, fun event answer member updated => ?_, fun synced => second.synced (first.synced synced)⟩
  rw [Station.made_eq both] at member
  obtain earlier | later := List.mem_append.mp member
  · rw [← Station.made_eq calls] at earlier
    rw [kept event answer earlier]
    exact first.updates event answer earlier updated
  · rw [← Station.made_eq calls'] at later
    exact second.updates event answer later updated

theorem quietly {made : List (Request × Answer)} (first : Tracks s t) (calls : u.calls = t.calls ++ made)
    (quiet : Silent made) (kept : ∀ tid, u.sessionState tid = t.sessionState tid) : Tracks s u :=
  first.trans (.silent calls quiet kept) fun _ _ _ => kept _

theorem after {made : List (Request × Answer)} (rest : Tracks t u) (calls : t.calls = s.calls ++ made)
    (quiet : Silent made) (kept : ∀ tid, t.sessionState tid = s.sessionState tid) : Tracks s u := by
  apply trans (.silent calls quiet kept) rest
  intro event answer member
  rw [Station.made_eq calls] at member
  exact absurd member (quiet event answer)

end Tracks

/-! ## What the calls report -/

def Acknowledged (s t : Station) : Prop :=
  ∀ entry ∈ s.made t, ¬entry.2.Fails

theorem Acknowledged.not_called {s t : Station} {request : Request} {answer : Answer} {error : OcppError}
    (acknowledged : Acknowledged s (t.called request answer)) (earlier : ∃ made, t.calls = s.calls ++ made)
    (fails : answer.outcome = .error error) : False :=
  acknowledged _ (Station.mem_made_called earlier request answer) (Answer.fails_of_error fails)

theorem Silent.nil : Silent [] :=
  fun _ _ => List.not_mem_nil

theorem Silent.cons {request : Request} {answer : Answer} {made : List (Request × Answer)}
    (quiet : ∀ event, .transactionEvent event ≠ request) (silent : Silent made) :
    Silent ((request, answer) :: made) := by
  intro event answer' member
  obtain same | later := List.mem_cons.mp member
  · exact quiet event (Prod.mk.inj same).1
  · exact silent event answer' later

section Calls

variable {config : Config} {s t : Station}

theorem Tracks.refl (s : Station) : Tracks s s :=
  .silent (List.append_nil _).symm .nil fun _ => rfl

theorem EmitOutcome.tracks {evseId : Int} {newState : ChargingStateEnumType}
    {triggerReason : TriggerReasonEnumType} {outcome : Except OcppError ChargingStateChangeOutcome}
    (acknowledged : Acknowledged s t) (ended : EmitOutcome evseId newState triggerReason s outcome t) :
    Tracks s t := by
  cases ended with
  | inert => exact .refl s
  | unreported transactionId answer error fails ended =>
      subst ended
      exact (acknowledged.not_called ⟨[], (List.append_nil _).symm⟩ fails).elim
  | emitted transactionId live response ended =>
      subst ended
      have states := Station.setState_sessionState ((s.claim transactionId).called
        (s.stateEvent evseId transactionId newState triggerReason) (.replied response)) transactionId
      apply Tracks.event transactionId rfl [] [] rfl .nil .nil
      · intro tid other
        rw [states, if_neg other]
        simp
      · obtain ⟨session, listed⟩ := Option.isSome_iff_exists.mp live.2
        refine .inl ⟨?_, .inl trivial⟩
        rw [states, if_pos rfl, Station.called_sessionState, Station.claim_sessionState, Station.sessionState,
          listed]
        rfl

theorem Silent.status (connectorId : Nat) (status : ChargePointStatus) (answer : Answer) :
    Silent [(.statusNotification connectorId status, answer)] :=
  .cons (fun _ => Request.noConfusion) .nil

theorem EnergizeOutcome.quiet {connectorId : Nat} {transactionId : Int} {outcome : Except OcppError Unit}
    (ended : EnergizeOutcome config connectorId transactionId s outcome t) :
    (∃ made, Silent made ∧ t.calls = s.calls ++ made) ∧ ∀ tid, t.sessionState tid = s.sessionState tid := by
  refine ⟨?_, Station.sessionState_congr ended.same.2.1 ended.same.2.2.2.1⟩
  cases ended with
  | unreported answer =>
      refine ⟨_, Silent.status connectorId .charging answer, ?_⟩
      rw [← s.energize_calls config connectorId]
      rfl
  | energized response =>
      refine ⟨_, Silent.status connectorId .charging (.replied response), ?_⟩
      rw [← s.energize_calls config connectorId]
      rfl

theorem PlugOutcome.tracks {evseId : Int} {outcome : Except OcppError ChargingStateChangeOutcome}
    (acknowledged : Acknowledged s t) (fresh : s.sessionState s.nextV201TransactionId = none)
    (ended : PlugOutcome evseId s outcome t) : Tracks s t := by
  cases ended with
  | untouched => exact .refl s
  | emit _ _ emits => exact emits.tracks acknowledged
  | notOpened answer error =>
      apply Tracks.event s.nextV201TransactionId rfl [] [] rfl .nil .nil
      · intro tid other
        rfl
      · exact .inr ⟨fresh, by simp [transactionEventStartedOnCablePlug]⟩
  | opened connectorId here response =>
      have states := Station.insertSession_sessionState (s.mintTransactionId.called (s.pluggedEvent evseId)
        (.replied response)) s.nextV201TransactionId
      apply Tracks.event s.nextV201TransactionId rfl [] [] rfl .nil .nil
      · intro tid other
        rw [Station.insertActive_sessionState, states, if_neg other]
        rfl
      · refine .inl ⟨?_, .inl trivial⟩
        rw [Station.insertActive_sessionState, states, if_pos rfl]
        rfl

theorem OpenOutcome.tracks {connectorId : Nat} {idTag : String} {meterStart : Int}
    {outcome : Except OcppError Int} (fresh : s.sessionState s.nextV201TransactionId = none)
    (ended : OpenOutcome config connectorId idTag meterStart s outcome t) : Tracks s t := by
  cases ended with
  | v16jUnanswered _ answer | v16jRejected _ response | v16jAccepted _ response =>
      exact .silent rfl (.cons (fun _ => Request.noConfusion) .nil) fun _ => rfl
  | v201Unanswered _ answer | v201Rejected _ response =>
      apply Tracks.event s.nextV201TransactionId rfl [] [] rfl .nil .nil
      · intro tid other
        rfl
      · exact .inr ⟨fresh, by simp [transactionEventStarted]⟩
  | v201Accepted _ response =>
      have states := Station.insertSession_sessionState (s.mintTransactionId.called
        (s.startedEvent connectorId idTag) (.replied response)) s.nextV201TransactionId
      apply Tracks.event s.nextV201TransactionId rfl [] [] rfl .nil .nil
      · intro tid other
        rw [states, if_neg other]
        rfl
      · refine .inl ⟨?_, .inl trivial⟩
        rw [states, if_pos rfl]
        rfl

theorem StartOutcome.tracks {connectorId : Nat} {idTag : String} {meterStart : Int}
    {outcome : Except OcppError Int} (acknowledged : Acknowledged s t)
    (fresh : s.sessionState s.nextV201TransactionId = none)
    (ended : StartOutcome config connectorId idTag meterStart s outcome t) : Tracks s t := by
  have reported : ∀ answer, Silent [(preparing connectorId, answer)] := .status connectorId .preparing
  cases ended with
  | advanced => exact .refl s
  | notPrepared answer => exact .silent rfl (reported answer) fun _ => rfl
  | notAuthorized transactionId plugged prepared answer error fails =>
      exact (acknowledged.not_called ⟨[(preparing connectorId, .replied prepared)], rfl⟩ fails).elim
  | folded transactionId plugged connected prepared authorized _ _ energized =>
      obtain ⟨-, session, listed, -⟩ := plugged
      obtain ⟨⟨made, quiet, calls⟩, kept⟩ := energized.quiet
      refine Tracks.quietly ?_ calls quiet kept
      rw [Station.fold_eq connectorId idTag transactionId prepared authorized listed]
      apply Tracks.event transactionId rfl [(preparing connectorId, .replied prepared)] [] rfl (reported _) .nil
      · intro tid other
        simp [Station.sessionState, other]
      · refine .inl ⟨?_, .inl trivial⟩
        simp [Station.sessionState, transactionEventStateTransition]
  | notOpened prepared error _ opening =>
      have opens := opening.tracks (s := s.called (preparing connectorId) (.replied prepared)) fresh
      exact opens.after rfl (reported (.replied prepared)) fun _ => rfl
  | opened prepared transactionId u opening _ _ energized =>
      obtain ⟨⟨made, quiet, calls⟩, kept⟩ := energized.quiet
      have opens := opening.tracks (s := s.called (preparing connectorId) (.replied prepared)) fresh
      exact (opens.quietly calls quiet kept).after rfl (reported (.replied prepared)) fun _ => rfl

theorem CloseOutcome.tracks {connectorId : Nat} {transactionId meterStop : Int} {reason : Reason}
    {outcome : Except OcppError Unit}
    (ended : CloseOutcome config connectorId transactionId meterStop reason s outcome t) : Tracks s t := by
  have states : ∀ tid, (s.tearDown connectorId transactionId).sessionState tid =
      if tid = transactionId then none else s.sessionState tid := by
    intro tid
    change ((s.v201Sessions.erase transactionId).lookup tid).map _ = _
    rw [HashMap.lookup_erase]
    split_ifs <;> rfl
  cases ended with
  | v16jUnanswered _ answer | v16jClosed _ response =>
      exact .silent rfl (.cons (fun _ => Request.noConfusion) .nil) fun _ => rfl
  | v201Absent _ absent =>
      refine Tracks.silent (List.append_nil s.calls).symm .nil fun tid => ?_
      rw [states]
      split_ifs with here
      · rw [here, Station.sessionState, absent, Option.map_none]
      · rfl
  | v201Unanswered _ session listed answer | v201Closed _ session listed response =>
      apply Tracks.event transactionId rfl [] [] rfl .nil .nil
      · intro tid other
        rw [Station.called_sessionState, Station.claim_sessionState, states, if_neg other]
      · refine .inr ⟨?_, by simp [transactionEventEnded]⟩
        rw [Station.called_sessionState, Station.claim_sessionState, states, if_pos rfl]

theorem StopOutcome.tracks {transactionId meterStop : Int} {reason : Reason} {outcome : Except OcppError Unit}
    (ended : StopOutcome config transactionId meterStop reason s outcome t) : Tracks s t := by
  have quiet : ∀ (connectorId : Nat) (finished : Response) (answer : Answer),
      Silent [(finishing connectorId, .replied finished), (available connectorId, answer)] :=
    fun connectorId _ answer => .cons (fun _ => Request.noConfusion) (.status connectorId .available answer)
  cases ended with
  | unknown => exact .refl s
  | unclosed connectorId _ error _ closing => exact closing.tracks
  | unfinished connectorId _ u closing answer =>
      exact closing.tracks.quietly rfl (.status connectorId .finishing answer) fun _ => rfl
  | unavailable connectorId _ u closing finished answer =>
      refine closing.tracks.quietly ?_ (quiet connectorId finished answer) ?_
      · simp
      · exact Station.sessionState_congr (by rw [Station.free_eq]; rfl) (by rw [Station.free_eq]; rfl)
  | stopped connectorId _ u closing finished freed _ drained =>
      obtain ⟨_, _, _, _, rfl⟩ := drained
      refine closing.tracks.quietly ?_ (quiet connectorId finished (.replied freed)) ?_
      · simp
      · exact Station.sessionState_congr (by rw [Station.free_eq]; rfl) (by rw [Station.free_eq]; rfl)

def reportListed (config : Config) (transactionId : Int) (connectorId : Nat)
    (event : Int → TransactionEventRequest) : Async Unit := do
  match ← act (.claimListedSeqNo transactionId) with
  | none => pure ()
  | some seqNo =>
      if connectorId ∈ config.connectors then
        let _ ← (call (.transactionEvent (event seqNo))).attempt

/-- The frame says `Charging`, which is what its session holds if it goes out. -/
theorem reportListed_tracks {transactionId : Int} {connectorId : Nat}
    (event : Int → TransactionEventRequest)
    (named : ∀ seqNo, (event seqNo).transactionId = transactionId)
    (charging : connectorId ∈ config.connectors → (s.v201Sessions.lookup transactionId).isSome →
      ∀ seqNo, (s.cells transactionId).chargingState = (event seqNo).chargingState) :
    (reportListed config transactionId connectorId event).wp exec (fun outcome t => outcome = .ok () ∧
      Tracks s t ∧ ∀ tid, t.sessionState tid = s.sessionState tid) s := by
  have claimed : Tracks s (s.claim transactionId) :=
    .silent (List.append_nil s.calls).symm .nil (s.claim_sessionState transactionId)
  unfold reportListed
  intro choice claimedNo u performed
  simp only [exec, Option.some.injEq] at performed
  split_ifs at performed with listed
  · cases performed
    change (if connectorId ∈ config.connectors then _ else _ : Async Unit).wp exec _ _
    split_ifs with known
    · have told : ∀ answer, Tracks s ((s.claim transactionId).called
          (.transactionEvent (event (s.cells transactionId).nextSeqNo)) answer) := by
        intro answer
        have held : s.sessionState transactionId =
            some (event (s.cells transactionId).nextSeqNo).chargingState := by
          obtain ⟨session, found⟩ := Option.isSome_iff_exists.mp listed
          rw [Station.sessionState, found, charging known listed (s.cells transactionId).nextSeqNo]
          rfl
        apply Tracks.event transactionId (named _) [] [] rfl .nil .nil
        · intro tid _
          exact s.claim_sessionState transactionId tid
        · exact .inl ⟨(s.claim_sessionState transactionId transactionId).trans held, .inr held⟩
      intro choice' answered t performed
      cases choice' with
      | answer answer =>
          cases performed
          cases answer <;> exact ⟨rfl, told _, s.claim_sessionState transactionId⟩
      | _ => cases performed
    · exact ⟨rfl, claimed, s.claim_sessionState transactionId⟩
  · cases performed
    exact ⟨rfl, .refl s, fun _ => rfl⟩

/-- A frame that says `Charging` tells what the session holds, if there is one. -/
def Station.Charging (config : Config) (s : Station) (transactionId : Int) (connectorId : Nat) : Prop :=
  connectorId ∈ config.connectors → (s.v201Sessions.lookup transactionId).isSome →
    (s.cells transactionId).chargingState = .charging

theorem v201MeterSamplerTick_tracks {transactionId : Int} {connectorId : Nat}
    (charging : s.Charging config transactionId connectorId) :
    (v201MeterSamplerTick config transactionId connectorId).wp exec (fun _ t => Tracks s t) s :=
  wp_mono (fun _ _ ended => ended.2.1) (reportListed_tracks (transactionEventUpdated transactionId connectorId)
    (fun _ => rfl) fun known listed _ => charging known listed)

theorem Station.Charging.of_sessionState {transactionId : Int} {connectorId : Nat}
    (charging : s.Charging config transactionId connectorId)
    (kept : t.sessionState transactionId = s.sessionState transactionId) :
    t.Charging config transactionId connectorId := by
  intro known listed
  obtain ⟨session, found⟩ := Option.isSome_iff_exists.mp listed
  rw [Station.sessionState, found, Option.map_some, Station.sessionState] at kept
  obtain ⟨session', found', same⟩ := Option.map_eq_some_iff.mp kept.symm
  rw [← same]
  exact charging known (by rw [found', Option.isSome_some])

theorem lookup_of_orders {active : HashMap Int Nat} {entries : List (Int × Nat)} {transactionId : Int}
    {connectorId : Nat} (ordered : Station.orders entries active) (member : (transactionId, connectorId) ∈ entries) :
    active.lookup transactionId = some connectorId := by
  obtain ⟨e, found, same⟩ := List.mem_map.mp ((List.isPerm_iff.mp ordered).mem_iff.mp member)
  cases same
  exact AList.mem_lookup_iff.mpr found

theorem triggerV201TransactionEvent_tracks {evseId : Option Int}
    (charging : ∀ transactionId connectorId, s.activeTransactions.lookup transactionId = some connectorId →
      evseId.all (· = (connectorId : Int)) → s.Charging config transactionId connectorId) :
    (triggerV201TransactionEvent config evseId).wp exec (fun _ t => Tracks s t) s := by
  intro choice entries u performed
  cases choice with
  | order listed =>
      simp only [exec, Option.ite_none_right_eq_some] at performed
      obtain ⟨ordered, same⟩ := performed
      cases same
      -- no frame of the loop changes what a session holds
      have each : ∀ item ∈ entries.filter fun item => evseId.all (· = (item.2 : Int)),
          ∀ u, (Tracks s u ∧ ∀ tid, u.sessionState tid = s.sessionState tid) →
            (reportListed config item.1 item.2 (transactionEventTriggered item.1 item.2)).wp exec
              (fun outcome t => outcome = .ok () ∧ Tracks s t ∧ ∀ tid, t.sessionState tid = s.sessionState tid)
              u := by
        rintro ⟨transactionId, connectorId⟩ member u ⟨tracks, kept⟩
        obtain ⟨member, targeted⟩ := List.mem_filter.mp member
        have held := charging transactionId connectorId (lookup_of_orders ordered member) targeted
        have held' := held.of_sessionState (kept transactionId)
        refine wp_mono ?_ (reportListed_tracks _ (fun _ => rfl) fun known listed _ => held' known listed)
        rintro outcome t ⟨ended, reports, same⟩
        refine ⟨ended, tracks.trans reports fun _ _ _ => same _, fun tid => ?_⟩
        rw [same, kept]
      exact wp_mono (fun _ _ ended => ended.2.1) (wp_forM _ each ⟨.refl s, fun _ => rfl⟩)
  | _ => cases performed

end Calls

/-! ## Runs -/

variable (config : Config) (rfc : Rfc3339)

/-- The calls that change or report the charging state of a session. -/
def Call.ReportsState : Call → Prop
  | startTransaction .. | stopTransaction .. | plugInCable _ | transitionChargingState .. | samplerTick ..
  | triggerTransactionEvent _ | command (.v201TriggerTransactionEvent _) => True
  | _ => False

def ReportsAcknowledged (s : Station) (completion : Completion) : Prop :=
  completion.call.ReportsState ∧ ∀ t, s.complete config rfc completion = some t → Acknowledged s t

/-- A tick and a trigger report sessions that are charging, and no start takes the id of a live session. -/
def SaysWhatHolds (s : Station) (completion : Completion) : Prop :=
  match completion.call with
  | .startTransaction .. | .plugInCable _ => s.v201Sessions.lookup s.nextV201TransactionId = none
  | .samplerTick transactionId connectorId => s.Charging config transactionId connectorId
  | .command (.v201TriggerTransactionEvent evseId) => ∀ transactionId connectorId,
      s.activeTransactions.lookup transactionId = some connectorId →
      evseId.all (· = (connectorId : Int)) → s.Charging config transactionId connectorId
  | _ => True

theorem complete_tracks {s t : Station} {completion : Completion}
    (acknowledged : ReportsAcknowledged config rfc s completion) (truthful : SaysWhatHolds config s completion)
    (completed : s.complete config rfc completion = some t) : Tracks s t := by
  have replied := acknowledged.2 t completed
  have reports := acknowledged.1
  obtain ⟨call, choices⟩ := completion
  cases call with
  | startTransaction connectorId idTag meterStart =>
      obtain ⟨outcome, ended⟩ := drive_outcome config rfc completed trivial
      exact ended.tracks replied (by rw [Station.sessionState, truthful, Option.map_none])
  | stopTransaction transactionId meterStop reason =>
      obtain ⟨outcome, ended⟩ := drive_outcome config rfc completed trivial
      exact ended.tracks
  | plugInCable evseId =>
      obtain ⟨outcome, ended⟩ := drive_outcome config rfc completed trivial
      exact ended.tracks replied (by rw [Station.sessionState, truthful, Option.map_none])
  | transitionChargingState evseId newState =>
      obtain rfl | ⟨outcome, ended⟩ := drive_outcome config rfc completed trivial
      · exact .refl t
      · exact ended.tracks replied
  | samplerTick transactionId connectorId =>
      obtain ⟨u, outcome, started, ran⟩ := Station.complete_eq_some config rfc completed
      have permitted := (Option.ite_none_left_eq_some.mp started).2
      obtain ⟨-, taken⟩ := Option.ite_none_right_eq_some.mp permitted
      obtain ⟨-, rfl⟩ := Prod.mk.inj (Option.some.inj taken)
      exact post_of_eval (v201MeterSamplerTick_tracks truthful) ran
  | triggerTransactionEvent evseId =>
      obtain ⟨outcome, ran⟩ := Station.complete_fresh config rfc completed trivial
      have queued : (do let _ ← triggerTransactionEvent evseId : Async Unit).wp exec (fun _ t => Tracks s t) s :=
        wp_act (fun _ => rfl) (Tracks.silent (List.append_nil s.calls).symm .nil fun _ => rfl)
      exact post_of_eval queued ran
  | command queued =>
      obtain ⟨u, outcome, started, ran⟩ := Station.complete_eq_some config rfc completed
      have permitted := (Option.ite_none_left_eq_some.mp started).2
      obtain ⟨-, taken⟩ := Option.ite_none_right_eq_some.mp permitted
      obtain ⟨-, rfl⟩ := Prod.mk.inj (Option.some.inj taken)
      cases queued with
      | v201TriggerTransactionEvent evseId =>
          have looped := post_of_eval (triggerV201TransactionEvent_tracks
            (s := { s with commands := s.commands.tail }) truthful) ran
          exact looped.after (List.append_nil s.calls).symm .nil fun _ => rfl
      | _ => exact reports.elim
  | _ => exact reports.elim

theorem synced_new : Synced Station.new := by
  intro tid state held
  simp [Station.sessionState, Station.new] at held

/-- In every run of such calls whose frames say what holds, every update carries the state its session holds
after the call, and the CSMS was always told last what a live session holds. -/
theorem charging_state_tracked {completions : List Completion}
    (along : Along (Station.complete config rfc) (fun s completion =>
      ReportsAcknowledged config rfc s completion ∧ SaysWhatHolds config s completion)
      Station.new completions) :
    Along (Station.complete config rfc)
        (fun s completion => ∀ t, s.complete config rfc completion = some t → UpdatesCurrent s t)
        Station.new completions ∧
      ∀ s, run (Station.complete config rfc) Station.new completions = some s → Synced s := by
  have kept : ∀ s completion t, Synced s →
      ReportsAcknowledged config rfc s completion ∧ SaysWhatHolds config s completion →
      s.complete config rfc completion = some t → Synced t :=
    fun _ _ _ synced met completed => (complete_tracks config rfc met.1 met.2 completed).synced synced
  constructor
  · apply along.of_invariant kept _ synced_new
    intro s completion _ met t completed
    exact (complete_tracks config rfc met.1 met.2 completed).updates
  · intro s ran
    exact run_invariant kept synced_new along ran

/-! ## A tick of a suspended session -/

def tickedOnOne : Completion :=
  ⟨.samplerTick 1 1, [.none, answered 0]⟩

theorem charging_tick_tracked :
    ∃ s, run (Station.complete (simulator .v201) noDates) Station.new [pluggedIn, foldedStart, tickedOnOne] =
        some s ∧ s.lastReported 1 = some .charging ∧ Synced s := by
  have reached : (run (Station.complete (simulator .v201) noDates) Station.new
      [pluggedIn, foldedStart, tickedOnOne]).map (·.lastReported 1) = some (some .charging) := rfl
  obtain ⟨s, ran, told⟩ := Option.map_eq_some_iff.mp reached
  refine ⟨s, ran, told, (charging_state_tracked (simulator .v201) noDates ?_).2 s ran⟩
  refine ⟨⟨⟨trivial, ?_⟩, rfl⟩, fun s plugged => ⟨⟨⟨trivial, ?_⟩, ?_⟩, fun t folded => ?_⟩⟩
  · rintro t ⟨⟩ entry member
    exact not_fails_of_all member rfl
  · cases plugged
    rintro t ⟨⟩ entry member
    exact not_fails_of_all member rfl
  · cases plugged
    rfl
  · cases plugged
    cases folded
    refine ⟨⟨⟨trivial, ?_⟩, fun _ _ => rfl⟩, fun _ _ => trivial⟩
    rintro t ⟨⟩ entry member
    exact not_fails_of_all member rfl

def suspendedOnOne : Completion :=
  ⟨.transitionChargingState 1 .suspendedEV, [.pick (some 1), .none, .none, .none, answered 0, .none, .none]⟩

theorem suspended_tick_untrue :
    ∃ s, run (Station.complete (simulator .v201) noDates) Station.new
        [pluggedIn, foldedStart, suspendedOnOne, tickedOnOne] = some s ∧
      (∀ entry ∈ s.calls, ¬entry.2.Fails) ∧ ¬Synced s := by
  have reached : (run (Station.complete (simulator .v201) noDates) Station.new
      [pluggedIn, foldedStart, suspendedOnOne, tickedOnOne]).map (fun s =>
        (s.calls.all fun entry => decide ¬entry.2.Fails, s.sessionState 1, s.lastReported 1)) =
      some (true, some .suspendedEV, some .charging) := rfl
  obtain ⟨s, ran, found⟩ := Option.map_eq_some_iff.mp reached
  obtain ⟨replied, both⟩ := Prod.mk.inj found
  obtain ⟨held, told⟩ := Prod.mk.inj both
  refine ⟨s, ran, fun entry member => not_fails_of_all member replied, fun synced => ?_⟩
  have claimed := synced 1 .suspendedEV held
  rw [told] at claimed
  cases claimed

end Ocpp.ChargePoint
