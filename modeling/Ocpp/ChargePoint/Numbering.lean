import Ocpp.Library.Protocol
import Ocpp.ChargePoint.Effects

/-!
# Numbering the events of a transaction

Every `TransactionEvent` after the first carries a number that its task claimed from the counter of the
session some steps earlier. What a task has done for a transaction is the phase it is in: it opens the
transaction, it has a pointer to the session, it has removed the session, or it has a number to use.
-/

namespace Ocpp.ChargePoint
open Library Library.Program V16j V201

inductive Phase
  | outside
  | minted
  | started
  | pointing
  | closing
  | numbered (seqNo : Int) (last : Bool)
  deriving DecidableEq

/-- A task in the phase may send the event next. -/
def Phase.MaySend : Phase → TransactionEventRequest → Prop
  | minted, event => event.eventType = .started ∧ event.seqNo = 0
  | numbered seqNo last, event =>
      event.seqNo = seqNo ∧ event.eventType = if last then .ended else .updated
  | _, _ => False

/-- The operations that let a task send another event: before each of them it has at most one to send. -/
def Op.Numbers : Op → Prop
  | mintTransactionId | claimSeqNo _ | claimListedSeqNo _ => True
  | _ => False

def Phase.allowed (transactionId : Int) (phase : Phase) : Op → Prop
  | .call (.transactionEvent event) => event.transactionId = transactionId → phase.MaySend event
  | .claimSeqNo tid => tid = transactionId → phase = .pointing ∨ phase = .closing
  | .insertSession tid _ cell => tid = transactionId → phase = .started ∧ cell.nextSeqNo = 1
  | _ => True

def Phase.after (transactionId : Int) (phase : Phase) : (op : Op) → op.Result → Phase
  | .mintTransactionId, (issued : Int) => if issued = transactionId then .minted else .outside
  | .call (.transactionEvent event), answer =>
      if event.transactionId = transactionId then
        if phase = .minted ∧ answer.isOk then .started else .outside
      else phase
  | .insertSession tid _ _, _ => if tid = transactionId then .outside else phase
  | .getSession tid, session => if tid = transactionId ∧ session.isSome then .pointing else phase
  | .removeSession tid, session => if tid = transactionId ∧ session.isSome then .closing else phase
  | .claimListedSeqNo tid, some seqNo =>
      if tid = transactionId then .numbered seqNo false else .outside
  | .claimListedSeqNo _, none => .outside
  | .claimSeqNo tid, (seqNo : Int) =>
      if tid = transactionId then .numbered seqNo (phase = .closing) else .outside
  | _, _ => phase

/-- The phases of a task on its way to the events of one transaction. -/
def numbering (transactionId : Int) : Protocol Op.Result Phase :=
  ⟨Phase.allowed transactionId, Phase.after transactionId⟩

/-- An event that the program may send without another number. -/
def Holds (event : TransactionEventRequest) (p : Async Unit) : Prop :=
  p.Reaches (· = .call (.transactionEvent event)) Op.Numbers

/-- The operations no phase depends on. -/
def Op.Unnumbered : Op → Prop
  | call (.transactionEvent _) | mintTransactionId | claimSeqNo _ | claimListedSeqNo _ | insertSession ..
  | getSession _ | removeSession _ => False
  | _ => True

section Protocol

variable (transactionId : Int) {phase : Phase}

theorem Op.Unnumbered.ignored {op : Op} (unnumbered : op.Unnumbered) :
    (numbering transactionId).Ignores phase op := by
  cases op
  case call request =>
    cases request with
    | transactionEvent event => exact unnumbered.elim
    | _ => exact ⟨trivial, fun _ => rfl⟩
  case mintTransactionId | claimSeqNo | claimListedSeqNo | insertSession | getSession | removeSession =>
    exact unnumbered.elim
  all_goals exact ⟨trivial, fun _ => rfl⟩

variable {transactionId}

theorem unnumbered_then {α β : Type} {p : Async α} {f : α → Async β} (within : p.Within Op.Unnumbered)
    (rest : ∀ value, (f value).Obeys (numbering transactionId) phase) :
    (p >>= f).Obeys (numbering transactionId) phase :=
  (within.mono fun _ => Op.Unnumbered.ignored transactionId).obeys_bind rest

theorem unnumbered_obeys {α : Type} {p : Async α} (within : p.Within Op.Unnumbered) :
    p.Obeys (numbering transactionId) phase :=
  (within.mono fun _ => Op.Unnumbered.ignored transactionId).obeys

theorem act_then {α : Type} {op : Op} {f : op.Result → Async α} (allowed : phase.allowed transactionId op)
    (rest : ∀ result, (f result).Obeys (numbering transactionId) (phase.after transactionId op result)) :
    (act op >>= f).Obeys (numbering transactionId) phase :=
  ⟨allowed, rest⟩

theorem ofExcept_obeys {α : Type} (outcome : Except OcppError α) :
    (Program.ofExcept outcome : Async α).Obeys (numbering transactionId) phase := by
  cases outcome <;> trivial

theorem event_then {α : Type} {event : TransactionEventRequest} {f : Response → Async α}
    (allowed : event.transactionId = transactionId → phase.MaySend event)
    (rest : ∀ response,
      (f response).Obeys (numbering transactionId)
        (phase.after transactionId (.call (.transactionEvent event)) (.ok response))) :
    (call (.transactionEvent event) >>= f).Obeys (numbering transactionId) phase := by
  refine ⟨allowed, fun answer => ?_⟩
  cases answer with
  | error error => trivial
  | ok response => exact rest response

theorem withState_obeys {α : Type} {tid : Int} {body : ChargingStateEnumType → Async α}
    (inside : ∀ state, (body state).Obeys (numbering transactionId) phase) :
    (withState tid body).Obeys (numbering transactionId) phase := by
  refine unnumbered_then (within_act trivial) fun state => ?_
  refine (inside state).attempt.bind fun outcome phase' => ?_
  exact unnumbered_then (within_act trivial) fun _ => ofExcept_obeys outcome

theorem Phase.maySend_of_after {op : Op} {result : op.Result} {event : TransactionEventRequest}
    (unnumbered : ¬op.Numbers) (maySend : (phase.after transactionId op result).MaySend event) :
    phase.MaySend event := by
  cases op
  case mintTransactionId | claimSeqNo | claimListedSeqNo => exact absurd trivial unnumbered
  case call request =>
    cases request with
    | transactionEvent sent =>
        simp only [Phase.after] at maySend
        split_ifs at maySend
        · exact maySend.elim
        · exact maySend.elim
        · exact maySend
    | _ => exact maySend
  case insertSession | getSession | removeSession =>
    simp only [Phase.after] at maySend
    split_ifs at maySend
    · exact maySend.elim
    · exact maySend
  all_goals exact maySend

theorem maySend_of_holds {p : Async Unit} {event : TransactionEventRequest}
    (obeys : p.Obeys (numbering transactionId) phase) (here : event.transactionId = transactionId)
    (holds : Holds event p) : phase.MaySend event := by
  induction p generalizing phase with
  | ret value => exact holds.elim
  | fail error => exact holds.elim
  | perform op next ih =>
      rcases holds with rfl | ⟨unnumbered, result, later⟩
      · exact obeys.1 here
      · exact Phase.maySend_of_after unnumbered (ih result (obeys.2 result) later)

end Protocol

/-! ## The programs -/

section Programs

variable (config : Config) {transactionId : Int} {phase : Phase}

theorem energizeConnector_unnumbered (connectorId : Nat) (tid : Int) :
    (energizeConnector config connectorId tid).Within Op.Unnumbered := by
  refine (within_act trivial).bind fun consumed => ?_
  refine (within_onlyIf (within_act trivial)).bind fun _ => ?_
  refine (within_onlyIf (within_act trivial)).bind fun _ => ?_
  exact (within_sendStatusNotification trivial).bind fun _ => within_act trivial

theorem claim_and_report {α : Type} {tid : Int} {event : Int → TransactionEventRequest}
    {f : Int → Response → Async α} {session : V201Session}
    (reports : ∀ seqNo, (event seqNo).transactionId = tid ∧ (event seqNo).seqNo = seqNo ∧
      (event seqNo).eventType = .updated)
    (rest : ∀ seqNo response phase', (f seqNo response).Obeys (numbering transactionId) phase') :
    (do let seqNo ← act (.claimSeqNo tid)
        let response ← call (.transactionEvent (event seqNo))
        f seqNo response : Async α).Obeys (numbering transactionId)
      (phase.after transactionId (.getSession tid) (some session)) := by
  refine act_then (fun here => ?_) fun seqNo => event_then (fun here => ?_) fun response => rest _ _ _
  · exact Or.inl (by simp [Phase.after, here])
  · obtain ⟨reported, numbered, updated⟩ := reports seqNo
    simp [Phase.after, Phase.MaySend, numbered, updated, ← reported, here]

theorem foldAuthorizationOntoPlugOpen_obeys (connectorId : Nat) (idTag : String)
    (chargingProfile : Option ChargingProfileType) (groupIdToken : Option IdTokenType) :
    (foldAuthorizationOntoPlugOpen config connectorId idTag chargingProfile groupIdToken).Obeys
      (numbering transactionId) phase := by
  refine unnumbered_then (within_act trivial) fun found => ?_
  cases found with
  | none => trivial
  | some tid =>
      refine act_then trivial fun session => ?_
      cases session with
      | none => trivial
      | some session =>
          dsimp only
          split_ifs
          · trivial
          refine Obeys.bind (withState_obeys fun state => ?_) fun advanced phase' => ?_
          · split_ifs
            · trivial
            · refine unnumbered_then (within_sendStatusNotification trivial) fun _ => ?_
              refine claim_and_report (fun _ => ⟨rfl, rfl, rfl⟩) fun seqNo response phase' => ?_
              refine unnumbered_then (within_act trivial) fun _ => ?_
              exact unnumbered_then (within_act trivial) fun _ => trivial
          · split_ifs
            · trivial
            · refine unnumbered_then (within_act trivial) fun _ => ?_
              refine unnumbered_then (within_installGiven fun _ _ => trivial) fun _ => ?_
              exact unnumbered_then (energizeConnector_unnumbered config _ _) fun _ => trivial

theorem openTransaction_obeys (connectorId : Nat) (idTag : String) (meterStart : Int)
    (remoteStartId : Option Int) (chargingProfile : Option ChargingProfileType)
    (groupIdToken : Option IdTokenType) :
    (openTransaction config connectorId idTag meterStart remoteStartId chargingProfile
      groupIdToken).Obeys (numbering transactionId) phase := by
  unfold openTransaction
  cases config.protocolVersion with
  | v16j =>
      refine unnumbered_then (within_call trivial) fun response => ?_
      split_ifs <;> trivial
  | v201 =>
      refine act_then trivial fun tid => event_then (fun here => ?_) fun response => ?_
      · simp only [transactionEventStarted] at here
        simp [Phase.after, Phase.MaySend, transactionEventStarted, here]
      · split
        · trivial
        refine act_then (fun here => ?_) fun _ => ?_
        · simp [Phase.after, transactionEventStarted, here, Except.isOk, Except.toBool]
        · exact unnumbered_then (within_installGiven fun _ _ => trivial) fun _ => trivial

theorem start_obeys (connectorId : Nat) (idTag : String) (meterStart : Int)
    (remoteStartId : Option Int) (chargingProfile : Option ChargingProfileType)
    (groupIdToken : Option IdTokenType) :
    (startTransactionWithRemoteStartId config connectorId idTag meterStart remoteStartId
      chargingProfile groupIdToken).Obeys (numbering transactionId) phase := by
  refine (foldAuthorizationOntoPlugOpen_obeys config connectorId idTag chargingProfile
    groupIdToken).bind fun folded phase' => ?_
  cases folded with
  | some tid => trivial
  | none =>
      refine unnumbered_then (within_sendStatusNotification trivial) fun _ => ?_
      refine (openTransaction_obeys config _ _ _ _ _ _).bind fun tid phase' => ?_
      refine unnumbered_then (within_act trivial) fun _ => ?_
      exact unnumbered_then (energizeConnector_unnumbered config _ _) fun _ => trivial

theorem emitTransactionStateChange_obeys (evseId : Int) (newState : ChargingStateEnumType)
    (triggerReason : TriggerReasonEnumType) :
    (emitTransactionStateChange evseId newState triggerReason).Obeys (numbering transactionId)
      phase := by
  refine unnumbered_then (within_act trivial) fun found => ?_
  cases found with
  | none => trivial
  | some tid =>
      refine act_then trivial fun session => ?_
      cases session with
      | none => trivial
      | some session =>
          refine withState_obeys fun state => ?_
          split_ifs
          · trivial
          · refine claim_and_report (fun _ => ⟨rfl, rfl, rfl⟩) fun seqNo response phase' => ?_
            exact unnumbered_then (within_act trivial) fun _ => trivial

theorem transitionChargingState_obeys (evseId : Int) (newState : ChargingStateEnumType) :
    (transitionChargingState config evseId newState).Obeys (numbering transactionId) phase := by
  unfold transitionChargingState
  split
  · trivial
  · exact emitTransactionStateChange_obeys evseId _ _
  · exact emitTransactionStateChange_obeys evseId _ _
  · exact emitTransactionStateChange_obeys evseId _ _
  · trivial

theorem openTransactionOnCablePlug_obeys (evseId : Int) :
    (openTransactionOnCablePlug config evseId).Obeys (numbering transactionId) phase := by
  unfold openTransactionOnCablePlug
  split
  · trivial
  · refine act_then trivial fun tid => event_then (fun here => ?_) fun response => ?_
    · simp only [transactionEventStartedOnCablePlug] at here
      simp [Phase.after, Phase.MaySend, transactionEventStartedOnCablePlug, here]
    · refine act_then (fun here => ?_) fun _ => ?_
      · simp [Phase.after, transactionEventStartedOnCablePlug, here, Except.isOk, Except.toBool]
      · exact unnumbered_then (within_act trivial) fun _ => trivial

theorem plugInCable_obeys (evseId : Int) :
    (plugInCable config evseId).Obeys (numbering transactionId) phase := by
  unfold plugInCable
  cases config.protocolVersion with
  | v16j => trivial
  | v201 =>
      refine (emitTransactionStateChange_obeys evseId _ _).bind fun outcome phase' => ?_
      split
      · split_ifs
        · exact openTransactionOnCablePlug_obeys config evseId
        · trivial
      · trivial

theorem claimListed_and_report {tid : Int} {connectorId : Nat} (event : Int → TransactionEventRequest)
    (reports : ∀ seqNo, (event seqNo).transactionId = tid ∧ (event seqNo).seqNo = seqNo ∧
      (event seqNo).eventType = .updated) :
    (do match ← act (.claimListedSeqNo tid) with
        | none => pure ()
        | some seqNo =>
            if connectorId ∈ config.connectors then
              let _ ← (call (.transactionEvent (event seqNo))).attempt : Async Unit).Obeys
      (numbering transactionId) phase := by
  refine act_then trivial fun claimed => ?_
  cases claimed with
  | none => trivial
  | some seqNo =>
      dsimp only
      split_ifs
      · refine Obeys.bind (Obeys.attempt ⟨fun here => ?_, fun answer => ofExcept_obeys answer⟩)
          fun _ _ => trivial
        obtain ⟨reported, numbered, updated⟩ := reports seqNo
        simp [Phase.after, Phase.MaySend, numbered, updated, ← reported, here]
      · trivial

theorem v201MeterSamplerTick_obeys (tid : Int) (connectorId : Nat) :
    (v201MeterSamplerTick config tid connectorId).Obeys (numbering transactionId) phase :=
  claimListed_and_report config (transactionEventUpdated tid connectorId) fun _ => ⟨rfl, rfl, rfl⟩

theorem triggerV201TransactionEvent_obeys (evseId : Option Int) :
    (triggerV201TransactionEvent config evseId).Obeys (numbering transactionId) phase := by
  refine unnumbered_then (within_act trivial) fun active => ?_
  refine Obeys.forM (fun (tid, connectorId) phase' => ?_) _
  exact claimListed_and_report config (transactionEventTriggered tid connectorId)
    fun _ => ⟨rfl, rfl, rfl⟩

theorem closeTransaction_obeys (connectorId : Nat) (tid meterStop : Int) (reason : Reason) :
    (closeTransaction config connectorId tid meterStop reason).Obeys (numbering transactionId)
      phase := by
  unfold closeTransaction
  cases config.protocolVersion with
  | v16j => exact unnumbered_then (within_call trivial) fun _ => trivial
  | v201 =>
      refine unnumbered_then (within_act trivial) fun _ => ?_
      refine unnumbered_then (within_act trivial) fun _ => ?_
      refine act_then trivial fun session => ?_
      cases session with
      | none => trivial
      | some session =>
          refine act_then (fun here => ?_) fun seqNo => event_then (fun here => ?_) fun _ => trivial
          · exact Or.inr (by simp [Phase.after, here])
          · simp only [transactionEventEnded] at here
            simp [Phase.after, Phase.MaySend, transactionEventEnded, here]

theorem drainDeferred_unnumbered : (drainDeferred config).Within Op.Unnumbered := by
  refine (drainDeferred_within config).mono fun op inside => ?_
  cases op <;> trivial

theorem stopTransaction_obeys (tid meterStop : Int) (reason : Reason) :
    (stopTransaction config tid meterStop reason).Obeys (numbering transactionId) phase := by
  refine unnumbered_then (within_act trivial) fun found => ?_
  cases found with
  | none => trivial
  | some connectorId =>
      refine (closeTransaction_obeys config connectorId tid meterStop reason).bind fun _ phase' => ?_
      refine unnumbered_obeys ?_
      refine (within_sendStatusNotification trivial).bind fun _ => ?_
      refine (within_act trivial).bind fun _ => ?_
      refine (within_act trivial).bind fun _ => ?_
      refine (within_onlyIf (within_act trivial)).bind fun _ => ?_
      exact (within_sendStatusNotification trivial).bind fun _ => drainDeferred_unnumbered config

theorem performReset_obeys (resetType : ResetType) :
    (performReset config resetType).Obeys (numbering transactionId) phase := by
  refine unnumbered_then (within_act trivial) fun _ => ?_
  refine unnumbered_then (within_act trivial) fun active => ?_
  refine (Obeys.forM (fun target phase' => ?_) _).bind fun _ phase' => ?_
  · exact (stopTransaction_obeys config target.1 0 _).attempt.bind fun _ _ => trivial
  · exact unnumbered_obeys (within_act trivial)

def Call.Reports : Call → Prop
  | startTransaction .. | stopTransaction .. | plugInCable _ | transitionChargingState .. | samplerTick ..
  | command (.startTransaction ..) | command (.stopTransaction _) | command (.reset _)
  | command (.v201TriggerTransactionEvent _) => True
  | _ => False

theorem Call.unnumbered {call : Call} (others : ¬call.Reports) {op : Op} (performed : call.ops op) :
    op.Unnumbered := by
  cases call with
  | startTransaction | stopTransaction | plugInCable | transitionChargingState | samplerTick =>
      exact others.elim trivial
  | command queued =>
      cases queued with
      | startTransaction | stopTransaction | reset | v201TriggerTransactionEvent =>
          exact others.elim trivial
      | v201ApplyAvailability connectorId target scheduled =>
          cases op
          case call request =>
            obtain ⟨status, rfl⟩ := performed
            trivial
          all_goals trivial
      | v201ReservationStatusUpdate | emitConnectorStatus =>
          obtain ⟨request, rfl, other⟩ := performed
          cases request with
          | transactionEvent event => exact absurd rfl (other event)
          | _ => trivial
  | deauthorize =>
      obtain ⟨idTag, rfl⟩ := performed
      trivial
  | v16jReset resetType =>
      cases performed
      trivial
  | _ => cases op <;> trivial

theorem Call.run_obeys (rfc : Rfc3339) (call : Call) :
    (call.run config rfc).Obeys (numbering transactionId) phase := by
  by_cases reports : call.Reports
  · cases call with
    | startTransaction connectorId idTag meterStart =>
        exact (start_obeys config connectorId idTag meterStart none none none).bind fun _ _ => trivial
    | stopTransaction tid meterStop reason => exact stopTransaction_obeys config tid meterStop reason
    | plugInCable evseId => exact (plugInCable_obeys config evseId).bind fun _ _ => trivial
    | transitionChargingState evseId newState =>
        exact (transitionChargingState_obeys config evseId newState).bind fun _ _ => trivial
    | samplerTick tid connectorId => exact v201MeterSamplerTick_obeys config tid connectorId
    | command queued =>
        cases queued with
        | startTransaction connectorId idTag remoteStartId chargingProfile groupIdToken =>
            exact (start_obeys config connectorId idTag 0 remoteStartId chargingProfile
              groupIdToken).bind fun _ _ => trivial
        | stopTransaction tid => exact stopTransaction_obeys config tid 0 _
        | reset resetType => exact performReset_obeys config resetType
        | v201TriggerTransactionEvent evseId => exact triggerV201TransactionEvent_obeys config evseId
        | _ => exact reports.elim
    | _ => exact reports.elim
  · exact unnumbered_obeys ((call.run_within config rfc).mono fun _ => Call.unnumbered reports)

end Programs

end Ocpp.ChargePoint
