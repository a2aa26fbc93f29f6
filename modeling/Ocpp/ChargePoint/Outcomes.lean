import Ocpp.ChargePoint.Effects

/-!
# What a call can end in

A call that runs alone, from its first step to its last. For each call one inductive lists the ways it
can end: at which of its CALLs it returned early, and the state it leaves.
-/

namespace Ocpp.ChargePoint
open Library Library.Program V16j V201

variable (config : Config)

namespace Station

variable (s : Station)

def made (t : Station) : List (Request × Answer) :=
  t.calls.drop s.calls.length

section Calls

variable (transactionId : Int)

@[simp] theorem called_calls (request : Request) (answer : Answer) :
    (s.called request answer).calls = s.calls ++ [(request, answer)] := rfl

@[simp] theorem insertActive_calls (connectorId : Nat) :
    (s.insertActive transactionId connectorId).calls = s.calls := rfl

@[simp] theorem insertSession_calls (session : V201Session) (cell : SessionCell) :
    (s.insertSession transactionId session cell).calls = s.calls := rfl

@[simp] theorem mintTransactionId_calls : s.mintTransactionId.calls = s.calls := rfl

theorem claim_chargingState (tid : Int) :
    ((s.claim transactionId).cells tid).chargingState = (s.cells tid).chargingState := by
  by_cases here : tid = transactionId
  · subst here
    simp [claim, setCell]
  · simp [claim, setCell, here]

theorem mem_made_called {s t : Station} (earlier : ∃ made, t.calls = s.calls ++ made)
    (request : Request) (answer : Answer) : (request, answer) ∈ s.made (t.called request answer) := by
  obtain ⟨made, calls⟩ := earlier
  simp [Station.made, calls]

end Calls

end Station

def Request.Updates : Request → Prop
  | transactionEvent event => event.eventType = .updated
  | _ => False

theorem Answer.fails_of_error {answer : Answer} {error : OcppError}
    (failed : answer.outcome = .error error) : answer.Fails := by
  cases answer with
  | refused | failed => trivial
  | replied => cases failed

section Rules

variable {α : Type} {post : Except OcppError α → Station → Prop} {s : Station}

theorem wp_act {op : Op} {f : op.Result → Async α} {result : op.Result} {t : Station}
    (performs : ∀ choice, exec s op choice = some (result, t)) (rest : (f result).wp exec post t) :
    (act op >>= f).wp exec post s := by
  intro choice result' t' performed
  rw [performs choice] at performed
  cases performed
  exact rest

theorem wp_call {request : Request} {f : Response → Async α}
    (fails : ∀ answer error, answer.outcome = .error error →
      post (.error error) (s.called request answer))
    (replies : ∀ response, (f response).wp exec post (s.called request (.replied response))) :
    (call request >>= f).wp exec post s := by
  intro choice result t performed
  cases choice with
  | answer answer =>
      cases performed
      cases answer with
      | refused error => exact fails (.refused error) error rfl
      | failed error => exact fails (.failed error) error rfl
      | replied response => exact replies response
  | _ => cases performed

theorem wp_notify {connectorId : Nat} {status : ChargePointStatus} {f : Unit → Async α}
    (fails : ∀ answer error, answer.outcome = .error error →
      post (.error error) (s.called (.statusNotification connectorId status) answer))
    (replies : ∀ response,
      (f ()).wp exec post (s.called (.statusNotification connectorId status) (.replied response))) :
    (sendStatusNotification connectorId status >>= f).wp exec post s := by
  rw [sendStatusNotification, bind_bind]
  exact wp_call fails replies

theorem wp_onlyIf {step : Station → (op : Op) → Choice → Option (op.Result × Station)} {condition : Bool}
    {body : Async Unit} {f : Unit → Async α} (taken : condition → (body >>= f).wp step post s)
    (skipped : ¬condition → (f ()).wp step post s) : (onlyIf condition body >>= f).wp step post s := by
  unfold onlyIf
  split_ifs with held
  · exact taken held
  · exact skipped held

theorem wp_discard {β : Type} {p : Async β} {post : Station → Prop}
    (holds : p.wp exec (fun _ t => post t) s) :
    (do let _ ← p : Async Unit).wp exec (fun _ t => post t) s :=
  wp_seq holds (fun _ _ ended => ended) fun _ _ ended => ended

section Lock

variable {transactionId : Int} (free : ¬(s.cells transactionId).locked)
include free

theorem unlocked_cell (nextSeqNo : Int) (authorized : Bool) (chargingState : ChargingStateEnumType) :
    { s.cells transactionId with nextSeqNo, authorized, chargingState } =
      (⟨nextSeqNo, authorized, chargingState, false⟩ : SessionCell) := by
  simpa using free

theorem unlock_lock : (s.lockState transactionId).unlockState transactionId = s := by
  have cell : { s.cells transactionId with locked := false } = s.cells transactionId :=
    (unlocked_cell free _ _ _).symm
  simp [Station.lockState, Station.unlockState, Station.setCell, cell]

theorem unlock_claim :
    ((s.lockState transactionId).claim transactionId).unlockState transactionId =
      s.claim transactionId := by
  simp [Station.lockState, Station.unlockState, Station.claim, Station.setCell, unlocked_cell free]

theorem unlock_authorize :
    ((((s.lockState transactionId).claim transactionId).setState transactionId .charging).authorize
      transactionId).unlockState transactionId =
      ((s.claim transactionId).setState transactionId .charging).authorize transactionId := by
  simp [Station.lockState, Station.unlockState, Station.claim, Station.setState, Station.authorize,
    Station.setCell, unlocked_cell free]

theorem unlock_setState (newState : ChargingStateEnumType) :
    (((s.lockState transactionId).claim transactionId).setState transactionId newState).unlockState
      transactionId = (s.claim transactionId).setState transactionId newState := by
  simp [Station.lockState, Station.unlockState, Station.claim, Station.setState, Station.setCell,
    unlocked_cell free]

end Lock

end Rules

/-! ## Starting -/

/-- The state in which a start reports the connector as charging. -/
def Station.energize (connectorId : Nat) (s : Station) : Station :=
  let freed := (s.dropReservationsOn connectorId).removeTimers (s.reservationsOn connectorId)
  if connectorId ∈ config.connectors then freed.setStatus connectorId .charging else freed

theorem Station.energize_eq (connectorId : Nat) (s : Station) :
    ∃ expiryTimers timers, s.energize config connectorId =
      { s with
        reservations := s.reservations.retain fun _ held => held ≠ connectorId
        status := if connectorId ∈ config.connectors then
          Function.update s.status connectorId .charging else s.status
        expiryTimers, timers } := by
  obtain ⟨expiryTimers, timers, removed⟩ :=
    (s.dropReservationsOn connectorId).removeTimers_eq (s.reservationsOn connectorId)
  refine ⟨expiryTimers, timers, ?_⟩
  rw [Station.energize, removed]
  split_ifs <;> rfl

namespace Station

variable (connectorId : Nat) (s : Station)

@[simp] theorem energize_calls :
    (s.energize config connectorId).calls = s.calls := by
  obtain ⟨expiryTimers, timers, energized⟩ := s.energize_eq config connectorId
  rw [energized]

theorem energize_status :
    (s.energize config connectorId).status = if connectorId ∈ config.connectors then
      Function.update s.status connectorId .charging else s.status := by
  obtain ⟨expiryTimers, timers, energized⟩ := s.energize_eq config connectorId
  rw [energized]

@[simp] theorem energize_cells :
    (s.energize config connectorId).cells = s.cells := by
  obtain ⟨expiryTimers, timers, energized⟩ := s.energize_eq config connectorId
  rw [energized]

@[simp] theorem energize_activeTransactions :
    (s.energize config connectorId).activeTransactions = s.activeTransactions := by
  obtain ⟨expiryTimers, timers, energized⟩ := s.energize_eq config connectorId
  rw [energized]

@[simp] theorem energize_v201Sessions :
    (s.energize config connectorId).v201Sessions = s.v201Sessions := by
  obtain ⟨expiryTimers, timers, energized⟩ := s.energize_eq config connectorId
  rw [energized]

@[simp] theorem energize_v201TxProfiles :
    (s.energize config connectorId).v201TxProfiles = s.v201TxProfiles := by
  obtain ⟨expiryTimers, timers, energized⟩ := s.energize_eq config connectorId
  rw [energized]

@[simp] theorem energize_meterSamplers :
    (s.energize config connectorId).meterSamplers = s.meterSamplers := by
  obtain ⟨expiryTimers, timers, energized⟩ := s.energize_eq config connectorId
  rw [energized]

@[simp] theorem energize_everAuthorized :
    (s.energize config connectorId).everAuthorized = s.everAuthorized := by
  obtain ⟨expiryTimers, timers, energized⟩ := s.energize_eq config connectorId
  rw [energized]

@[simp] theorem energize_nextV201TransactionId :
    (s.energize config connectorId).nextV201TransactionId = s.nextV201TransactionId := by
  obtain ⟨expiryTimers, timers, energized⟩ := s.energize_eq config connectorId
  rw [energized]

end Station

inductive EnergizeOutcome (connectorId : Nat) (transactionId : Int) (s : Station) :
    Except OcppError Unit → Station → Prop
  | unreported (answer : Answer) (error : OcppError) (fails : answer.outcome = .error error) :
      EnergizeOutcome connectorId transactionId s (.error error)
        ((s.energize config connectorId).called (.statusNotification connectorId .charging) answer)
  | energized (response : Response) :
      EnergizeOutcome connectorId transactionId s (.ok ())
        (((s.energize config connectorId).called (.statusNotification connectorId .charging)
          (.replied response)).registerSampler transactionId connectorId)

theorem EnergizeOutcome.same {connectorId : Nat} {transactionId : Int} {s t : Station}
    {outcome : Except OcppError Unit}
    (ended : EnergizeOutcome config connectorId transactionId s outcome t) :
    t.activeTransactions = s.activeTransactions ∧ t.v201Sessions = s.v201Sessions ∧
      t.v201TxProfiles = s.v201TxProfiles ∧ t.cells = s.cells ∧ t.everAuthorized = s.everAuthorized := by
  cases ended with
  | unreported answer | energized response =>
      simp [Station.called, Station.registerSampler]

theorem EnergizeOutcome.reported {connectorId : Nat} {transactionId : Int} {s t u : Station}
    {outcome : Except OcppError Unit} (earlier : ∃ made, t.calls = s.calls ++ made)
    (ended : EnergizeOutcome config connectorId transactionId t outcome u) :
    ∃ answer, (.statusNotification connectorId .charging, answer) ∈ s.made u := by
  obtain ⟨made, calls⟩ := earlier
  have extended : ∃ made, (t.energize config connectorId).calls = s.calls ++ made := ⟨made, by simp [calls]⟩
  cases ended with
  | unreported answer => exact ⟨answer, Station.mem_made_called extended _ _⟩
  | energized response => exact ⟨.replied response, Station.mem_made_called extended _ _⟩

theorem EnergizeOutcome.runs_on {connectorId : Nat} {transactionId : Int} {s t : Station}
    {outcome : Except OcppError Unit}
    (ended : EnergizeOutcome config connectorId transactionId s outcome t) :
    t.status = (s.energize config connectorId).status ∧
      ∀ tid, (s.meterSamplers.lookup tid).isSome → (t.meterSamplers.lookup tid).isSome := by
  cases ended with
  | unreported answer => exact ⟨rfl, fun tid => by simp [Station.called]⟩
  | energized response =>
      refine ⟨rfl, fun tid sampled => ?_⟩
      by_cases here : tid = transactionId
      · subst here
        simp [Station.registerSampler]
      · simpa [Station.called, Station.registerSampler, here] using sampled

theorem energizeConnector_outcome (connectorId : Nat) (transactionId : Int) (s : Station) :
    (energizeConnector config connectorId transactionId).wp exec
      (EnergizeOutcome config connectorId transactionId s) s := by
  have report : ∀ t, t = s.energize config connectorId → (do
      sendStatusNotification connectorId .charging
      act (.registerSampler transactionId connectorId) : Async Unit).wp exec
        (EnergizeOutcome config connectorId transactionId s) t := by
    rintro _ rfl
    refine wp_notify .unreported fun response choice result t performed => ?_
    cases performed
    exact .energized response
  have freed : (do
      onlyIf (connectorId ∈ config.connectors) (act (.setStatus connectorId .charging))
      sendStatusNotification connectorId .charging
      act (.registerSampler transactionId connectorId) : Async Unit).wp exec
        (EnergizeOutcome config connectorId transactionId s)
        ((s.dropReservationsOn connectorId).removeTimers (s.reservationsOn connectorId)) := by
    refine wp_onlyIf (fun known => wp_act (fun _ => rfl) ?_) fun unknown => ?_
    · exact report _ (if_pos (of_decide_eq_true known)).symm
    · exact report _ (if_neg fun known => unknown (decide_eq_true known)).symm
  refine wp_act (fun _ => rfl) ?_
  refine wp_onlyIf (fun _ => wp_act (fun _ => rfl) freed) fun none => ?_
  have empty : s.reservationsOn connectorId = [] := by simpa using none
  rw [empty] at freed
  exact freed

/-- A transaction on the connector that a cable plug opened. -/
def Station.PlugOpened (s : Station) (connectorId : Nat) (transactionId : Int) : Prop :=
  s.activeTransactions.lookup transactionId = some connectorId ∧
    ∃ session, s.v201Sessions.lookup transactionId = some session ∧ session.plugInitiated

def preparing (connectorId : Nat) : Request :=
  .statusNotification connectorId .preparing

/-- The frame that reports the authorization of a transaction that a cable plug opened. -/
def Station.authorizedEvent (s : Station) (connectorId : Nat) (transactionId : Int) : Request :=
  .transactionEvent (transactionEventStateTransition transactionId connectorId
    (s.cells transactionId).nextSeqNo .authorized .charging)

/-- The state in which a start turns to the connector of a transaction that a cable plug opened. -/
def Station.fold (connectorId : Nat) (idTag : String) (transactionId : Int)
    (prepared authorized : Response) (s : Station) : Station :=
  ((((s.called (preparing connectorId) (.replied prepared)).claim transactionId).called
    (s.authorizedEvent connectorId transactionId) (.replied authorized)).setState transactionId
      .charging).authorize transactionId |>.setIdentity transactionId idTag none

theorem Station.fold_eq (connectorId : Nat) (idTag : String) (transactionId : Int)
    (prepared authorized : Response) {s : Station} {session : V201Session}
    (listed : s.v201Sessions.lookup transactionId = some session) :
    s.fold connectorId idTag transactionId prepared authorized =
      { s with
        v201Sessions := s.v201Sessions.insert transactionId ⟨idTag, session.plugInitiated, none⟩
        cells := Function.update s.cells transactionId
          ⟨wrappingSucc (s.cells transactionId).nextSeqNo, true, .charging, (s.cells transactionId).locked⟩
        everAuthorized := Function.update s.everAuthorized transactionId true
        calls := s.calls ++ [(preparing connectorId, .replied prepared),
          (s.authorizedEvent connectorId transactionId, .replied authorized)] } := by
  simp [fold, setIdentity, called, claim, setState, authorize, setCell, listed]

inductive FoldOutcome (connectorId : Nat) (idTag : String) (s : Station) :
    Except OcppError (Option Int) → Station → Prop
  | none : FoldOutcome connectorId idTag s (.ok .none) s
  | advanced (transactionId : Int) (plugged : s.PlugOpened connectorId transactionId)
      (past : (s.cells transactionId).chargingState ≠ .evConnected) :
      FoldOutcome connectorId idTag s (.ok (some transactionId)) s
  | notPrepared (answer : Answer) (error : OcppError) (fails : answer.outcome = .error error) :
      FoldOutcome connectorId idTag s (.error error) (s.called (preparing connectorId) answer)
  | notAuthorized (transactionId : Int) (plugged : s.PlugOpened connectorId transactionId)
      (prepared : Response) (answer : Answer) (error : OcppError)
      (fails : answer.outcome = .error error) :
      FoldOutcome connectorId idTag s (.error error)
        (((s.called (preparing connectorId) (.replied prepared)).claim transactionId).called
          (s.authorizedEvent connectorId transactionId) answer)
  | folded (transactionId : Int) (plugged : s.PlugOpened connectorId transactionId)
      (connected : (s.cells transactionId).chargingState = .evConnected)
      (prepared authorized : Response) (outcome : Except OcppError Unit) (t : Station)
      (energized : EnergizeOutcome config connectorId transactionId
        (s.fold connectorId idTag transactionId prepared authorized) outcome t)
      {result : Except OcppError (Option Int)}
      (ended : result = outcome.map fun _ => some transactionId) :
      FoldOutcome connectorId idTag s result t

/-- What the holder of the session's mutex can leave behind. -/
inductive AdvanceOutcome (connectorId : Nat) (transactionId : Int) (s : Station) :
    Except OcppError Bool → Station → Prop
  | past {t : Station} (past : (s.cells transactionId).chargingState ≠ .evConnected) (ended : t = s) :
      AdvanceOutcome connectorId transactionId s (.ok false) t
  | notPrepared {t : Station} (answer : Answer) (error : OcppError)
      (fails : answer.outcome = .error error) (ended : t = s.called (preparing connectorId) answer) :
      AdvanceOutcome connectorId transactionId s (.error error) t
  | notAuthorized {t : Station} (prepared : Response) (answer : Answer) (error : OcppError)
      (fails : answer.outcome = .error error)
      (ended : t = ((s.called (preparing connectorId) (.replied prepared)).claim transactionId).called
        (s.authorizedEvent connectorId transactionId) answer) :
      AdvanceOutcome connectorId transactionId s (.error error) t
  | advanced {t : Station} (connected : (s.cells transactionId).chargingState = .evConnected)
      (prepared authorized : Response)
      (ended : t = ((((s.called (preparing connectorId) (.replied prepared)).claim transactionId).called
        (s.authorizedEvent connectorId transactionId) (.replied authorized)).setState transactionId
          .charging).authorize transactionId) :
      AdvanceOutcome connectorId transactionId s (.ok true) t

theorem wp_withState {α : Type} {transactionId : Int} {body : ChargingStateEnumType → Async α}
    {post : Except OcppError α → Station → Prop} {s : Station}
    (inside : ¬(s.cells transactionId).locked → (body (s.cells transactionId).chargingState).wp exec
      (fun outcome t => post outcome (t.unlockState transactionId)) (s.lockState transactionId)) :
    (withState transactionId body).wp exec post s := by
  intro choice state t performed
  simp only [exec, Option.ite_none_left_eq_some, Option.some.injEq] at performed
  obtain ⟨free, held⟩ := performed
  cases held
  change (do
    let outcome ← (body (s.cells transactionId).chargingState).attempt
    act (.unlockState transactionId)
    Program.ofExcept outcome : Async α).wp exec post _
  rw [wp_bind, wp_attempt]
  refine wp_mono (fun outcome t ended => ?_) (inside free)
  intro choice' result' u unlocked
  cases unlocked
  cases outcome with
  | error error => exact ended
  | ok value => exact ended

theorem advance_outcome (connectorId : Nat) (transactionId : Int) (s : Station)
    (free : ¬(s.cells transactionId).locked) :
    (do
      if (s.cells transactionId).chargingState ≠ .evConnected then
        return false
      sendStatusNotification connectorId .preparing
      let seqNo ← act (.claimSeqNo transactionId)
      let _ ← call (.transactionEvent
        (transactionEventStateTransition transactionId connectorId seqNo .authorized .charging))
      act (.setState transactionId .charging)
      act (.authorize transactionId)
      return true : Async Bool).wp exec
        (fun outcome t => AdvanceOutcome connectorId transactionId s outcome (t.unlockState transactionId))
        (s.lockState transactionId) := by
  have seqNo : ((s.lockState transactionId).cells transactionId).nextSeqNo =
      (s.cells transactionId).nextSeqNo := by
    simp [Station.lockState, Station.setCell]
  split_ifs with past
  · exact .past past (unlock_lock free)
  -- a CALL commutes with the lock: only the cell records it
  · refine wp_notify (fun answer error fails => ?_) fun prepared => ?_
    · exact .notPrepared answer error fails
        (unlock_lock (s := s.called (preparing connectorId) answer) free)
    refine wp_act (fun _ => rfl) ?_
    change ((call (.transactionEvent (transactionEventStateTransition transactionId connectorId
      ((s.lockState transactionId).cells transactionId).nextSeqNo .authorized .charging))) >>=
        fun _ => _).wp exec _ _
    rw [seqNo]
    refine wp_call (fun answer error fails => ?_) fun authorized => ?_
    · exact .notAuthorized prepared answer error fails
        (unlock_claim (s := (s.called (preparing connectorId) (.replied prepared)).called
          (s.authorizedEvent connectorId transactionId) answer) free)
    · refine wp_act (fun _ => rfl) (wp_act (fun _ => rfl) ?_)
      exact .advanced (not_not.mp past) prepared authorized
        (unlock_authorize (s := (s.called (preparing connectorId) (.replied prepared)).called
          (s.authorizedEvent connectorId transactionId) (.replied authorized)) free)

theorem findActive_outcome {α : Type} {post : Except OcppError α → Station → Prop} {s : Station}
    {evseId : Int} {f : Option Int → Async α} (none : (f .none).wp exec post s)
    (found : ∀ transactionId connectorId, s.activeTransactions.lookup transactionId = some connectorId →
      evseId = (connectorId : Int) → (f (some transactionId)).wp exec post s) :
    (act (.findActive evseId) >>= f).wp exec post s := by
  intro choice result t performed
  cases choice with
  | pick picked =>
      cases picked with
      | none =>
          simp only [exec, Option.ite_none_right_eq_some] at performed
          cases performed.2
          exact none
      | some tid =>
          simp only [exec, Option.ite_none_right_eq_some, Option.any_eq_true,
            decide_eq_true_eq] at performed
          obtain ⟨⟨connectorId, active, here⟩, ended⟩ := performed
          cases ended
          exact found tid connectorId active here
  | _ => cases performed

theorem foldAuthorizationOntoPlugOpen_outcome (connectorId : Nat) (idTag : String) (s : Station) :
    (foldAuthorizationOntoPlugOpen config connectorId idTag none none).wp exec
      (FoldOutcome config connectorId idTag s) s := by
  refine findActive_outcome .none fun transactionId target active here => ?_
  obtain rfl : connectorId = target := by omega
  refine wp_act (fun _ => rfl) ?_
  cases listed : s.v201Sessions.lookup transactionId with
  | none => exact .none
  | some session =>
      dsimp only
      split_ifs with other
      · exact .none
      have plugged : s.PlugOpened connectorId transactionId := ⟨active, session, listed, by simpa using other⟩
      refine wp_seq (wp_withState fun free => advance_outcome connectorId transactionId s free) ?_ ?_
      · intro error t ended
        cases ended with
        | notPrepared answer _ fails ended => exact ended ▸ .notPrepared answer error fails
        | notAuthorized prepared answer _ fails ended =>
            exact ended ▸ .notAuthorized transactionId plugged prepared answer error fails
      · intro advanced t ended
        cases ended with
        | past past ended =>
            subst ended
            exact .advanced transactionId plugged past
        | advanced connected prepared authorized ended =>
            subst ended
            refine wp_act (fun _ => rfl) ?_
            rw [installGiven, pure_eq, ret_bind]
            refine wp_seq (energizeConnector_outcome config connectorId transactionId _) ?_ ?_
            · intro error t ended
              exact .folded transactionId plugged connected prepared authorized _ t ended rfl
            · intro value t ended
              exact .folded transactionId plugged connected prepared authorized _ t ended rfl

def Station.startedEvent (s : Station) (connectorId : Nat) (idTag : String) : Request :=
  .transactionEvent (transactionEventStarted s.nextV201TransactionId connectorId idTag none)

inductive OpenOutcome (connectorId : Nat) (idTag : String) (meterStart : Int) (s : Station) :
    Except OcppError Int → Station → Prop
  | v16jUnanswered (v16j : config.protocolVersion = .v16j) (answer : Answer) (error : OcppError)
      (fails : answer.outcome = .error error) :
      OpenOutcome connectorId idTag meterStart s (.error error)
        (s.called (.startTransaction connectorId idTag meterStart) answer)
  | v16jRejected (v16j : config.protocolVersion = .v16j) (response : Response) (error : OcppError) :
      OpenOutcome connectorId idTag meterStart s (.error error)
        (s.called (.startTransaction connectorId idTag meterStart) (.replied response))
  | v16jAccepted (v16j : config.protocolVersion = .v16j) (response : Response) :
      OpenOutcome connectorId idTag meterStart s (.ok response.transactionId)
        (s.called (.startTransaction connectorId idTag meterStart) (.replied response))
  | v201Unanswered (v201 : config.protocolVersion = .v201) (answer : Answer) (error : OcppError)
      (fails : answer.outcome = .error error) :
      OpenOutcome connectorId idTag meterStart s (.error error)
        (s.mintTransactionId.called (s.startedEvent connectorId idTag) answer)
  | v201Rejected (v201 : config.protocolVersion = .v201) (response : Response) (error : OcppError) :
      OpenOutcome connectorId idTag meterStart s (.error error)
        (s.mintTransactionId.called (s.startedEvent connectorId idTag) (.replied response))
  | v201Accepted (v201 : config.protocolVersion = .v201) (response : Response) :
      OpenOutcome connectorId idTag meterStart s (.ok s.nextV201TransactionId)
        ((s.mintTransactionId.called (s.startedEvent connectorId idTag) (.replied response)).insertSession
          s.nextV201TransactionId ⟨idTag, false, none⟩ ⟨1, true, .charging, false⟩)

theorem OpenOutcome.earlier {connectorId : Nat} {idTag : String} {meterStart : Int} {s t : Station}
    {outcome : Except OcppError Int}
    (ended : OpenOutcome config connectorId idTag meterStart s outcome t) :
    ∃ made, t.calls = s.calls ++ made := by
  cases ended with
  | _ => exact ⟨_, rfl⟩

theorem OpenOutcome.eq {connectorId : Nat} {idTag : String} {meterStart : Int} {s t : Station}
    {outcome : Except OcppError Int}
    (ended : OpenOutcome config connectorId idTag meterStart s outcome t) :
    ∃ nextV201TransactionId v201Sessions cells everAuthorized calls,
      t = { s with nextV201TransactionId, v201Sessions, cells, everAuthorized, calls } := by
  cases ended with
  | _ =>
      dsimp only [Station.called, Station.mintTransactionId, Station.insertSession]
      exact ⟨_, _, _, _, _, rfl⟩

theorem openTransaction_outcome (connectorId : Nat) (idTag : String) (meterStart : Int) (s : Station) :
    (openTransaction config connectorId idTag meterStart none none none).wp exec
      (OpenOutcome config connectorId idTag meterStart s) s := by
  unfold openTransaction
  cases version : config.protocolVersion with
  | v16j =>
      refine wp_call (fun answer error fails => .v16jUnanswered version answer error fails) ?_
      intro response
      split_ifs
      · exact .v16jRejected version response _
      · exact .v16jAccepted version response
  | v201 =>
      refine wp_act (fun _ => rfl) ?_
      refine wp_call (fun answer error fails => .v201Unanswered version answer error fails) ?_
      intro response
      split
      · exact .v201Rejected version response _
      · exact wp_act (fun _ => rfl) (.v201Accepted version response)

inductive StartOutcome (connectorId : Nat) (idTag : String) (meterStart : Int) (s : Station) :
    Except OcppError Int → Station → Prop
  | advanced (transactionId : Int) (plugged : s.PlugOpened connectorId transactionId)
      (past : (s.cells transactionId).chargingState ≠ .evConnected) :
      StartOutcome connectorId idTag meterStart s (.ok transactionId) s
  | notPrepared (answer : Answer) (error : OcppError) (fails : answer.outcome = .error error) :
      StartOutcome connectorId idTag meterStart s (.error error)
        (s.called (preparing connectorId) answer)
  | notAuthorized (transactionId : Int) (plugged : s.PlugOpened connectorId transactionId)
      (prepared : Response) (answer : Answer) (error : OcppError)
      (fails : answer.outcome = .error error) :
      StartOutcome connectorId idTag meterStart s (.error error)
        (((s.called (preparing connectorId) (.replied prepared)).claim transactionId).called
          (s.authorizedEvent connectorId transactionId) answer)
  | folded (transactionId : Int) (plugged : s.PlugOpened connectorId transactionId)
      (connected : (s.cells transactionId).chargingState = .evConnected)
      (prepared authorized : Response) (outcome : Except OcppError Unit) (t : Station)
      (energized : EnergizeOutcome config connectorId transactionId
        (s.fold connectorId idTag transactionId prepared authorized) outcome t)
      {result : Except OcppError Int} (ended : result = outcome.map fun _ => transactionId) :
      StartOutcome connectorId idTag meterStart s result t
  | notOpened (prepared : Response) (error : OcppError) (t : Station)
      (opening : OpenOutcome config connectorId idTag meterStart
        (s.called (preparing connectorId) (.replied prepared)) (.error error) t) :
      StartOutcome connectorId idTag meterStart s (.error error) t
  | opened (prepared : Response) (transactionId : Int) (u : Station)
      (opening : OpenOutcome config connectorId idTag meterStart
        (s.called (preparing connectorId) (.replied prepared)) (.ok transactionId) u)
      (outcome : Except OcppError Unit) (t : Station)
      (energized : EnergizeOutcome config connectorId transactionId
        (u.insertActive transactionId connectorId) outcome t)
      {result : Except OcppError Int} (ended : result = outcome.map fun _ => transactionId) :
      StartOutcome connectorId idTag meterStart s result t

theorem startTransaction_outcome (connectorId : Nat) (idTag : String) (meterStart : Int) (s : Station) :
    (startTransaction config connectorId idTag meterStart).wp exec
      (StartOutcome config connectorId idTag meterStart s) s := by
  refine wp_seq (foldAuthorizationOntoPlugOpen_outcome config connectorId idTag s) ?_ ?_
  · intro error t ended
    cases ended with
    | notPrepared answer _ fails => exact .notPrepared answer error fails
    | notAuthorized transactionId plugged prepared answer _ fails =>
        exact .notAuthorized transactionId plugged prepared answer error fails
    | folded transactionId plugged connected prepared authorized outcome _ energized ended =>
        cases outcome with
        | error _ =>
            cases ended
            exact .folded transactionId plugged connected prepared authorized _ t energized rfl
        | ok _ => cases ended
  · intro folded t ended
    cases ended with
    | none =>
        refine wp_notify .notPrepared fun prepared => ?_
        refine wp_seq (openTransaction_outcome config connectorId idTag meterStart _) ?_ ?_
        · exact .notOpened prepared
        intro transactionId u opening
        refine wp_act (fun _ => rfl) ?_
        refine wp_seq (energizeConnector_outcome config connectorId transactionId _) ?_ ?_
        · intro error t energized
          exact .opened prepared transactionId u opening _ t energized rfl
        · intro value t energized
          exact .opened prepared transactionId u opening _ t energized rfl
    | advanced transactionId plugged past => exact .advanced transactionId plugged past
    | folded transactionId plugged connected prepared authorized outcome _ energized ended =>
        cases outcome with
        | error _ => cases ended
        | ok _ =>
            cases ended
            exact .folded transactionId plugged connected prepared authorized _ t energized rfl

/-! ## Driving -/

def Station.stateEvent (s : Station) (evseId transactionId : Int) (newState : ChargingStateEnumType)
    (triggerReason : TriggerReasonEnumType) : Request :=
  .transactionEvent (transactionEventStateTransition transactionId evseId
    (s.cells transactionId).nextSeqNo triggerReason newState)

/-- A transaction on the EVSE that has a session. -/
def Station.LiveOn (s : Station) (evseId transactionId : Int) : Prop :=
  (∃ connectorId, s.activeTransactions.lookup transactionId = some connectorId ∧
    evseId = (connectorId : Int)) ∧ (s.v201Sessions.lookup transactionId).isSome

inductive EmitOutcome (evseId : Int) (newState : ChargingStateEnumType)
    (triggerReason : TriggerReasonEnumType) (s : Station) :
    Except OcppError ChargingStateChangeOutcome → Station → Prop
  | inert (outcome : ChargingStateChangeOutcome) :
      EmitOutcome evseId newState triggerReason s (.ok outcome) s
  | unreported (transactionId : Int) (answer : Answer) (error : OcppError)
      (fails : answer.outcome = .error error) {t : Station}
      (ended : t = (s.claim transactionId).called
        (s.stateEvent evseId transactionId newState triggerReason) answer) :
      EmitOutcome evseId newState triggerReason s (.error error) t
  | emitted (transactionId : Int) (live : s.LiveOn evseId transactionId) (response : Response)
      {t : Station} (ended : t = ((s.claim transactionId).called
        (s.stateEvent evseId transactionId newState triggerReason) (.replied response)).setState
          transactionId newState) :
      EmitOutcome evseId newState triggerReason s
        (.ok (.emitted (s.cells transactionId).nextSeqNo)) t

theorem emitTransactionStateChange_outcome (evseId : Int) (newState : ChargingStateEnumType)
    (triggerReason : TriggerReasonEnumType) (s : Station) :
    (emitTransactionStateChange evseId newState triggerReason).wp exec
      (EmitOutcome evseId newState triggerReason s) s := by
  refine findActive_outcome (.inert _) fun transactionId connectorId active here => ?_
  refine wp_act (fun _ => rfl) ?_
  cases listed : s.v201Sessions.lookup transactionId with
  | none => exact .inert _
  | some session =>
      have seqNo : ((s.lockState transactionId).cells transactionId).nextSeqNo =
          (s.cells transactionId).nextSeqNo := by
        simp [Station.lockState, Station.setCell]
      have live : s.LiveOn evseId transactionId := ⟨⟨connectorId, active, here⟩, by simp [listed]⟩
      refine wp_withState fun free => ?_
      split_ifs
      · rw [pure_eq, wp_ret, unlock_lock free]
        exact .inert _
      · refine wp_act (fun _ => rfl) ?_
        rw [seqNo]
        refine wp_call (fun answer error fails => ?_) fun response => ?_
        · exact .unreported transactionId answer error fails
            (unlock_claim (s := s.called (s.stateEvent evseId transactionId newState triggerReason)
              answer) free)
        · refine wp_act (fun _ => rfl) ?_
          exact .emitted transactionId live response
            (unlock_setState (s := s.called (s.stateEvent evseId transactionId newState triggerReason)
              (.replied response)) free newState)

theorem transitionChargingState_outcome (evseId : Int) (newState : ChargingStateEnumType) (s : Station) :
    (transitionChargingState config evseId newState).wp exec (fun outcome t =>
      t = s ∨ EmitOutcome evseId newState .chargingStateChanged s outcome t) s := by
  unfold transitionChargingState
  split
  · exact Or.inl rfl
  · exact wp_mono (fun _ _ => Or.inr) (emitTransactionStateChange_outcome evseId .charging _ s)
  · exact wp_mono (fun _ _ => Or.inr) (emitTransactionStateChange_outcome evseId .suspendedEV _ s)
  · exact wp_mono (fun _ _ => Or.inr) (emitTransactionStateChange_outcome evseId .suspendedEVSE _ s)
  · exact Or.inl rfl

def Station.pluggedEvent (s : Station) (evseId : Int) : Request :=
  .transactionEvent (transactionEventStartedOnCablePlug s.nextV201TransactionId evseId)

inductive PlugOutcome (evseId : Int) (s : Station) :
    Except OcppError ChargingStateChangeOutcome → Station → Prop
  | untouched (outcome : Except OcppError ChargingStateChangeOutcome) : PlugOutcome evseId s outcome s
  | emit (outcome : Except OcppError ChargingStateChangeOutcome) (t : Station)
      (emits : EmitOutcome evseId .evConnected .cablePluggedIn s outcome t) :
      PlugOutcome evseId s outcome t
  | notOpened (answer : Answer) (error : OcppError) :
      PlugOutcome evseId s (.error error) (s.mintTransactionId.called (s.pluggedEvent evseId) answer)
  | opened (connectorId : Nat) (here : evseId = (connectorId : Int)) (response : Response) :
      PlugOutcome evseId s (.ok (.opened s.nextV201TransactionId 0))
        (((s.mintTransactionId.called (s.pluggedEvent evseId) (.replied response)).insertSession
          s.nextV201TransactionId ⟨"", true, none⟩ ⟨1, false, .evConnected, false⟩).insertActive
            s.nextV201TransactionId connectorId)

theorem openTransactionOnCablePlug_outcome (evseId : Int) (s : Station) :
    (openTransactionOnCablePlug config evseId).wp exec (PlugOutcome evseId s) s := by
  unfold openTransactionOnCablePlug
  split
  · exact .untouched _
  case h_2 connectorId found =>
    have known := (Option.mem_filter_iff.mp found).1
    simp only [connectorOf, Option.mem_def, Option.ite_none_right_eq_some, Option.some.injEq] at known
    refine wp_act (fun _ => rfl) ?_
    refine wp_call (fun answer error _ => .notOpened answer error) fun response => ?_
    refine wp_act (fun _ => rfl) (wp_act (fun _ => rfl) ?_)
    exact .opened connectorId (by omega) response

theorem plugInCable_outcome (evseId : Int) (s : Station) :
    (plugInCable config evseId).wp exec (PlugOutcome evseId s) s := by
  unfold plugInCable
  cases config.protocolVersion with
  | v16j => exact .untouched _
  | v201 =>
      refine wp_seq (emitTransactionStateChange_outcome evseId _ _ s) ?_ ?_
      · intro error t emits
        exact .emit _ t emits
      · intro outcome t emits
        split
        · cases emits
          split_ifs
          · exact openTransactionOnCablePlug_outcome config evseId s
          · exact .untouched _
        · exact .emit _ t emits

/-! ## Stopping -/

/-- The state in which a stop turns to the session of a 2.0.1 transaction. -/
def Station.tearDown (connectorId : Nat) (transactionId : Int) (s : Station) : Station :=
  ((s.stopSampler transactionId).clearTxProfile connectorId).removeSession transactionId

def Station.endedEvent (s : Station) (connectorId : Nat) (transactionId : Int) (idTag : String)
    (reason : Reason) : Request :=
  .transactionEvent (transactionEventEnded transactionId connectorId
    (s.cells transactionId).nextSeqNo idTag reason)

inductive CloseOutcome (connectorId : Nat) (transactionId meterStop : Int) (reason : Reason)
    (s : Station) : Except OcppError Unit → Station → Prop
  | v16jUnanswered (v16j : config.protocolVersion = .v16j) (answer : Answer) (error : OcppError)
      (fails : answer.outcome = .error error) :
      CloseOutcome connectorId transactionId meterStop reason s (.error error)
        (s.called (.stopTransaction transactionId meterStop reason) answer)
  | v16jClosed (v16j : config.protocolVersion = .v16j) (response : Response) :
      CloseOutcome connectorId transactionId meterStop reason s (.ok ())
        (s.called (.stopTransaction transactionId meterStop reason) (.replied response))
  | v201Absent (v201 : config.protocolVersion = .v201)
      (absent : s.v201Sessions.lookup transactionId = none) :
      CloseOutcome connectorId transactionId meterStop reason s (.ok ())
        (s.tearDown connectorId transactionId)
  | v201Unanswered (v201 : config.protocolVersion = .v201) (session : V201Session)
      (listed : s.v201Sessions.lookup transactionId = some session) (answer : Answer)
      (error : OcppError) (fails : answer.outcome = .error error) :
      CloseOutcome connectorId transactionId meterStop reason s (.error error)
        (((s.tearDown connectorId transactionId).claim transactionId).called
          (s.endedEvent connectorId transactionId session.idTag reason) answer)
  | v201Closed (v201 : config.protocolVersion = .v201) (session : V201Session)
      (listed : s.v201Sessions.lookup transactionId = some session) (response : Response) :
      CloseOutcome connectorId transactionId meterStop reason s (.ok ())
        (((s.tearDown connectorId transactionId).claim transactionId).called
          (s.endedEvent connectorId transactionId session.idTag reason) (.replied response))

theorem closeTransaction_outcome (connectorId : Nat) (transactionId meterStop : Int) (reason : Reason)
    (s : Station) :
    (closeTransaction config connectorId transactionId meterStop reason).wp exec
      (CloseOutcome config connectorId transactionId meterStop reason s) s := by
  unfold closeTransaction
  cases version : config.protocolVersion with
  | v16j =>
      refine wp_call (fun answer error fails => .v16jUnanswered version answer error fails) ?_
      exact fun response => .v16jClosed version response
  | v201 =>
      refine wp_act (fun _ => rfl) (wp_act (fun _ => rfl) (wp_act (fun _ => rfl) ?_))
      have sessions : ((s.stopSampler transactionId).clearTxProfile connectorId).v201Sessions =
          s.v201Sessions := rfl
      rw [sessions]
      cases listed : s.v201Sessions.lookup transactionId with
      | none => exact .v201Absent version listed
      | some session =>
          refine wp_act (fun _ => rfl) ?_
          refine wp_call ?_ ?_
          · exact fun answer error fails => .v201Unanswered version session listed answer error fails
          · exact fun response => .v201Closed version session listed response

theorem CloseOutcome.earlier {connectorId : Nat} {transactionId meterStop : Int} {reason : Reason}
    {s t : Station} {outcome : Except OcppError Unit}
    (ended : CloseOutcome config connectorId transactionId meterStop reason s outcome t) :
    ∃ made, t.calls = s.calls ++ made := by
  cases ended with
  | v201Absent => exact ⟨[], (List.append_nil _).symm⟩
  | v16jUnanswered | v16jClosed | v201Unanswered | v201Closed => exact ⟨_, rfl⟩

theorem CloseOutcome.eq {connectorId : Nat} {transactionId meterStop : Int} {reason : Reason} {s t : Station}
    {outcome : Except OcppError Unit}
    (ended : CloseOutcome config connectorId transactionId meterStop reason s outcome t) :
    ∃ v201Sessions cells v201TxProfiles meterSamplers calls,
      t = { s with v201Sessions, cells, v201TxProfiles, meterSamplers, calls } := by
  cases ended with
  | _ =>
      dsimp only [Station.called, Station.claim, Station.setCell, Station.tearDown, Station.stopSampler,
        Station.clearTxProfile, Station.removeSession]
      exact ⟨_, _, _, _, _, rfl⟩

/-- However its closing CALL ends, a 2.0.1 transaction loses its session, its profile and its sampler. -/
structure TornDown (connectorId : Nat) (transactionId : Int) (s t : Station) : Prop where
  active : t.activeTransactions = s.activeTransactions
  sessions : t.v201Sessions = s.v201Sessions.erase transactionId
  profiles : t.v201TxProfiles = s.v201TxProfiles.erase (connectorId : Int)
  samplers : t.meterSamplers = s.meterSamplers.erase transactionId
  cells : ∀ tid, tid ≠ transactionId → t.cells tid = s.cells tid
  ever : t.everAuthorized = s.everAuthorized
  status : t.status = s.status

theorem CloseOutcome.tornDown {connectorId : Nat} {transactionId meterStop : Int} {reason : Reason}
    {s t : Station} {outcome : Except OcppError Unit} (v201 : config.protocolVersion = .v201)
    (ended : CloseOutcome config connectorId transactionId meterStop reason s outcome t) :
    TornDown connectorId transactionId s t := by
  cases ended with
  | v16jUnanswered v16j | v16jClosed v16j => rw [v16j] at v201; cases v201
  | v201Absent => exact ⟨rfl, rfl, rfl, rfl, fun _ _ => rfl, rfl, rfl⟩
  | v201Unanswered | v201Closed =>
      dsimp only [Station.called, Station.claim, Station.setCell, Station.tearDown, Station.stopSampler,
        Station.clearTxProfile, Station.removeSession]
      exact ⟨rfl, rfl, rfl, rfl, fun _ other => Function.update_of_ne other _ _, rfl, rfl⟩

/-- Draining changes the slots and the queue, and what the queue has settled. -/
def Station.Drained (s t : Station) : Prop :=
  ∃ pendingV201Reset pendingV201Availability commands due,
    t = { s with pendingV201Reset, pendingV201Availability, commands, due }

theorem drainDeferred_outcome (s : Station) :
    (drainDeferred config).wp exec (fun outcome t => outcome = .ok () ∧ s.Drained t) s := by
  have queue : ∀ command u, s.Drained u → (act (.enqueue command)).wp exec
      (fun outcome t => outcome = .ok () ∧ s.Drained t) u := by
    rintro command u ⟨_, _, _, _, rfl⟩ choice result t performed
    cases performed
    exact ⟨rfl, _, _, _, _, rfl⟩
  intro choice armed u performed
  have taken : s.Drained u := by
    rw [exec_effect performed, Op.effect]
    split_ifs
    · exact ⟨_, _, _, _, rfl⟩
    · exact ⟨_, _, _, _, rfl⟩
  have availability : (applyDeferred config armed.2).wp exec
      (fun outcome t => outcome = .ok () ∧ s.Drained t) u := by
    cases armed.2 with
    | none => exact ⟨rfl, taken⟩
    | some pending => exact wp_forM _ (fun connectorId _ u drained => queue _ u drained) taken
  change (applyDeferred config armed.2 >>= fun _ => resetDeferred armed.1).wp exec _ u
  refine wp_seq availability ?_ fun value t ended => ?_
  · rintro error t ⟨⟨⟩, -⟩
  cases armed.1 with
  | none => exact ⟨rfl, ended.2⟩
  | some resetType => exact queue _ t ended.2

def finishing (connectorId : Nat) : Request :=
  .statusNotification connectorId .finishing

def available (connectorId : Nat) : Request :=
  .statusNotification connectorId .available

/-- The state in which a stop reports the connector as available. -/
def Station.free (connectorId : Nat) (transactionId : Int) (s : Station) : Station :=
  let removed := (s.stopSampler transactionId).removeActive transactionId
  if connectorId ∈ config.connectors then removed.setStatus connectorId .available else removed

theorem Station.free_eq (connectorId : Nat) (transactionId : Int) (s : Station) :
    s.free config connectorId transactionId =
      { s with
        meterSamplers := s.meterSamplers.erase transactionId
        activeTransactions := s.activeTransactions.erase transactionId
        status := if connectorId ∈ config.connectors then
          Function.update s.status connectorId .available else s.status } := by
  rw [Station.free]
  split_ifs <;> rfl

@[simp] theorem Station.free_calls (connectorId : Nat) (transactionId : Int) (s : Station) :
    (s.free config connectorId transactionId).calls = s.calls := by
  rw [Station.free_eq]

theorem CloseOutcome.available_made {connectorId : Nat} {transactionId meterStop : Int} {reason : Reason}
    {s u : Station} {outcome : Except OcppError Unit}
    (closing : CloseOutcome config connectorId transactionId meterStop reason s outcome u)
    (finished : Response) (answer : Answer) :
    (available connectorId, answer) ∈ s.made (((u.called (finishing connectorId)
      (.replied finished)).free config connectorId transactionId).called (available connectorId)
        answer) := by
  obtain ⟨made, calls⟩ := closing.earlier
  refine Station.mem_made_called ⟨made ++ [(finishing connectorId, .replied finished)], ?_⟩ _ _
  simp [calls]

inductive StopOutcome (transactionId meterStop : Int) (reason : Reason) (s : Station) :
    Except OcppError Unit → Station → Prop
  | unknown (unlisted : s.activeTransactions.lookup transactionId = none) (error : OcppError) :
      StopOutcome transactionId meterStop reason s (.error error) s
  | unclosed (connectorId : Nat) (active : s.activeTransactions.lookup transactionId = some connectorId)
      (error : OcppError) (t : Station)
      (closing : CloseOutcome config connectorId transactionId meterStop reason s (.error error) t) :
      StopOutcome transactionId meterStop reason s (.error error) t
  | unfinished (connectorId : Nat)
      (active : s.activeTransactions.lookup transactionId = some connectorId) (u : Station)
      (closing : CloseOutcome config connectorId transactionId meterStop reason s (.ok ()) u)
      (answer : Answer) (error : OcppError) (fails : answer.outcome = .error error) :
      StopOutcome transactionId meterStop reason s (.error error)
        (u.called (finishing connectorId) answer)
  | unavailable (connectorId : Nat)
      (active : s.activeTransactions.lookup transactionId = some connectorId) (u : Station)
      (closing : CloseOutcome config connectorId transactionId meterStop reason s (.ok ()) u)
      (finished : Response) (answer : Answer) (error : OcppError)
      (fails : answer.outcome = .error error) :
      StopOutcome transactionId meterStop reason s (.error error)
        (((u.called (finishing connectorId) (.replied finished)).free config connectorId
          transactionId).called (available connectorId) answer)
  | stopped (connectorId : Nat)
      (active : s.activeTransactions.lookup transactionId = some connectorId) (u : Station)
      (closing : CloseOutcome config connectorId transactionId meterStop reason s (.ok ()) u)
      (finished freed : Response) (t : Station)
      (drained : (((u.called (finishing connectorId) (.replied finished)).free config connectorId
        transactionId).called (available connectorId) (.replied freed)).Drained t) :
      StopOutcome transactionId meterStop reason s (.ok ()) t

theorem stopTransaction_outcome (transactionId meterStop : Int) (reason : Reason) (s : Station) :
    (stopTransaction config transactionId meterStop reason).wp exec
      (StopOutcome config transactionId meterStop reason s) s := by
  refine wp_act (fun _ => rfl) ?_
  cases active : s.activeTransactions.lookup transactionId with
  | none => exact .unknown active _
  | some connectorId =>
      refine wp_seq (closeTransaction_outcome config connectorId transactionId meterStop reason s) ?_ ?_
      · exact fun error t closing => .unclosed connectorId active error t closing
      intro value u closing
      refine wp_notify (fun answer error fails => ?_) fun finished => ?_
      · exact .unfinished connectorId active u closing answer error fails
      refine wp_act (fun _ => rfl) (wp_act (fun _ => rfl) ?_)
      have report : ∀ t, t = (u.called (finishing connectorId) (.replied finished)).free config
          connectorId transactionId → (do
            sendStatusNotification connectorId .available
            drainDeferred config : Async Unit).wp exec
              (StopOutcome config transactionId meterStop reason s) t := by
        rintro _ rfl
        refine wp_notify (fun answer error fails => ?_) fun freed => ?_
        · exact .unavailable connectorId active u closing finished answer error fails
        · refine wp_mono ?_ (drainDeferred_outcome config _)
          rintro _ t ⟨rfl, drained⟩
          exact .stopped connectorId active u closing finished freed t drained
      refine wp_onlyIf (fun known => wp_act (fun _ => rfl) ?_) fun unknown => ?_
      · exact report _ (if_pos (of_decide_eq_true known)).symm
      · exact report _ (if_neg fun known => unknown (decide_eq_true known)).symm

end Ocpp.ChargePoint
