import Ocpp.ChargePoint.System

/-!
# Effects and footprints

What one operation changes, stated once for all operations, and which operations each call can perform.
-/

namespace Ocpp.ChargePoint
open Library Library.Program V16j V201

/-! ## Effects -/

def Op.effect : Op → Choice → Station → Station
  | insertActive tid connectorId, _, s => s.insertActive tid connectorId
  | removeActive tid, _, s => s.removeActive tid
  | insertSession tid session cell, _, s => s.insertSession tid session cell
  | removeSession tid, _, s => s.removeSession tid
  | setIdentity tid idTag groupIdToken, _, s => s.setIdentity tid idTag groupIdToken
  | claimListedSeqNo tid, _, s => if (s.v201Sessions.lookup tid).isSome then s.claim tid else s
  | deauthorizeSessions idTag, _, s => s.deauthorize idTag
  | claimSeqNo tid, _, s => s.claim tid
  | lockState tid, _, s => s.lockState tid
  | setState tid state, _, s => s.setState tid state
  | unlockState tid, _, s => s.unlockState tid
  | authorize tid, _, s => s.authorize tid
  | mintTransactionId, _, s => s.mintTransactionId
  | call request, .answer answer, s => s.called request answer
  | setStatus connectorId status, _, s => s.setStatus connectorId status
  | setReservedFor connectorId idTag, _, s => s.setReservedFor connectorId idTag
  | installTxProfile evseId profile, _, s => s.installTxProfile evseId profile
  | clearTxProfile evseId, _, s => s.clearTxProfile evseId
  | takeReservationsOn connectorId, _, s => s.dropReservationsOn connectorId
  | insertReservation id connectorId idTag, _, s => s.insertReservation id connectorId idTag
  | removeReservation id, _, s => s.removeReservation id
  | expireReservation id connectorId, _, s =>
      if s.reservations.lookup id = some connectorId then s.removeReservation id else s
  | removeTimers ids, _, s => s.removeTimers ids
  | armTimer timer, _, s => s.armTimer timer
  | registerSampler tid connectorId, _, s => s.registerSampler tid connectorId
  | stopSampler tid, _, s => s.stopSampler tid
  | drainSamplers, _, s => { s with meterSamplers := ∅ }
  | armReset resetType, _, s => s.armReset resetType
  | takeReset, _, s => { s with pendingV201Reset := none }
  | armAvailability evseId target, _, s => s.armAvailability evseId target
  | takeIfIdle, _, s => if s.idle then s.takeSlots else s
  | enqueue command, _, s => s.enqueue command
  | _, _, s => s

theorem exec_effect {s t : Station} {op : Op} {choice : Choice} {result : op.Result}
    (performed : exec s op choice = some (result, t)) : t = op.effect choice s := by
  cases op
  case findActive =>
    cases choice
    case pick found =>
      cases found <;> simp only [exec, Option.ite_none_right_eq_some] at performed <;>
        cases performed.2 <;> rfl
    all_goals cases performed
  case listActive =>
    cases choice <;> simp only [exec, Option.ite_none_right_eq_some] at performed
    case order => cases performed.2; rfl
    all_goals cases performed
  case call => cases choice <;> cases performed; rfl
  case lockState =>
    simp only [exec, Option.ite_none_left_eq_some] at performed
    cases performed.2
    rfl
  case claimListedSeqNo | expireReservation | takeIfIdle =>
    simp only [exec, Option.some.injEq] at performed
    simp only [Op.effect]
    split_ifs at performed ⊢ <;> cases performed <;> rfl
  all_goals cases performed; rfl

theorem Call.start_shared {config : Config} {rfc : Rfc3339} {s s' : Station} {task : Nat} {call : Call}
    {p : Async Unit} (started : call.start config rfc s task = some (p, s')) :
    p = call.run config rfc ∧ ∃ commands timers, s' = { s with commands, timers } := by
  have permitted := (Option.ite_none_left_eq_some.mp started).2
  cases call <;>
    obtain ⟨rfl, rfl⟩ := Prod.mk.inj (Option.some.inj (Option.ite_none_right_eq_some.mp permitted).2) <;>
    exact ⟨rfl, _, _, rfl⟩

theorem Call.start_commands {config : Config} {rfc : Rfc3339} {s s' : Station} {task : Nat} {call : Call}
    {p : Async Unit} (started : call.start config rfc s task = some (p, s')) :
    (∀ command ∈ s'.commands, command ∈ s.commands) ∧
      ∀ queued, call = .command queued → queued ∈ s.commands := by
  have permitted := (Option.ite_none_left_eq_some.mp started).2
  cases call
  case command queued =>
    obtain ⟨⟨-, first⟩, rest⟩ := Option.ite_none_right_eq_some.mp permitted
    cases rest
    refine ⟨fun command mem => List.mem_of_mem_tail mem, ?_⟩
    rintro _ ⟨⟩
    exact List.mem_of_head? first
  all_goals
    obtain ⟨rfl, rfl⟩ := Prod.mk.inj (Option.some.inj (Option.ite_none_right_eq_some.mp permitted).2)
    refine ⟨fun command mem => mem, fun queued same => ?_⟩
    cases same

namespace Station

variable (s : Station)

theorem setIdentity_eq (transactionId : Int) (idTag : String) (groupIdToken : Option IdTokenType) :
    ∃ v201Sessions, s.setIdentity transactionId idTag groupIdToken = { s with v201Sessions } := by
  unfold setIdentity
  split
  · exact ⟨_, rfl⟩
  · exact ⟨_, rfl⟩

theorem removeTimers_eq (ids : List Int) :
    ∃ expiryTimers timers, s.removeTimers ids = { s with expiryTimers, timers } := by
  induction ids generalizing s with
  | nil => exact ⟨_, _, rfl⟩
  | cons id ids ih =>
      obtain ⟨expiryTimers, timers, removed⟩ := ih (s.removeTimer id)
      refine ⟨expiryTimers, timers, ?_⟩
      rw [removeTimers, List.foldl_cons, ← removeTimers, removed]
      unfold removeTimer
      split <;> rfl

end Station

def Op.Deferring : Op → Prop
  | insertActive .. | removeActive _ | armReset _ | takeReset | armAvailability .. | takeIfIdle
  | enqueue _ => True
  | _ => False

theorem Op.effect_undeferring {op : Op} (other : ¬op.Deferring) (choice : Choice) (s : Station) :
    (op.effect choice s).activeTransactions = s.activeTransactions ∧
      (op.effect choice s).pendingV201Reset = s.pendingV201Reset ∧
      (op.effect choice s).pendingV201Availability = s.pendingV201Availability ∧
      (op.effect choice s).due = s.due ∧ (op.effect choice s).commands = s.commands := by
  cases op
  case insertActive | removeActive | armReset | takeReset | armAvailability | takeIfIdle | enqueue =>
    exact absurd trivial other
  case setIdentity tid idTag groupIdToken =>
    obtain ⟨v201Sessions, identified⟩ := s.setIdentity_eq tid idTag groupIdToken
    rw [effect, identified]
    exact ⟨rfl, rfl, rfl, rfl, rfl⟩
  case removeTimers ids =>
    obtain ⟨expiryTimers, timers, removed⟩ := s.removeTimers_eq ids
    rw [effect, removed]
    exact ⟨rfl, rfl, rfl, rfl, rfl⟩
  case claimListedSeqNo | expireReservation =>
    simp only [effect]
    split_ifs <;> exact ⟨rfl, rfl, rfl, rfl, rfl⟩
  case call => cases choice <;> exact ⟨rfl, rfl, rfl, rfl, rfl⟩
  all_goals exact ⟨rfl, rfl, rfl, rfl, rfl⟩

def Op.onActive : Op → HashMap Int Nat → HashMap Int Nat
  | insertActive tid connectorId, active => active.insert tid connectorId
  | removeActive tid, active => active.erase tid
  | _, active => active

theorem Op.effect_activeTransactions (op : Op) (choice : Choice) (s : Station) :
    (op.effect choice s).activeTransactions = op.onActive s.activeTransactions := by
  by_cases deferring : op.Deferring
  · cases op
    case takeIfIdle =>
      simp only [effect, onActive]
      split_ifs <;> rfl
    all_goals first | rfl | exact deferring.elim
  · rw [(effect_undeferring deferring choice s).1]
    cases op
    case insertActive | removeActive => exact absurd trivial deferring
    all_goals rfl

theorem lookup_onActive {op : Op} {active : HashMap Int Nat} {tid : Int} {connectorId : Nat}
    (found : (op.onActive active).lookup tid = some connectorId) :
    active.lookup tid = some connectorId ∨ op = .insertActive tid connectorId := by
  cases op
  case insertActive inserted target =>
    obtain ⟨rfl, rfl⟩ | ⟨-, before⟩ := HashMap.lookup_insert_eq_some.mp found
    · exact Or.inr rfl
    · exact Or.inl before
  case removeActive removed =>
    exact Or.inl (HashMap.lookup_of_erase found)
  all_goals exact Or.inl found

theorem Op.effect_commands {op : Op} {choice : Choice} {s : Station} {command : RemoteCommand}
    (mem : command ∈ (op.effect choice s).commands) :
    command ∈ s.commands ∨ op = .enqueue command := by
  by_cases deferring : op.Deferring
  · cases op
    case enqueue queued =>
      rcases List.mem_append.mp mem with before | last
      · exact Or.inl before
      · rw [List.mem_singleton.mp last]
        exact Or.inr rfl
    case takeIfIdle =>
      simp only [effect] at mem
      split_ifs at mem <;> exact Or.inl mem
    all_goals first | exact Or.inl mem | exact deferring.elim
  · obtain ⟨-, -, -, -, same⟩ := effect_undeferring deferring choice s
    exact Or.inl (same ▸ mem)

/-! ## Footprints -/

variable {α : Type} {P : Op → Prop}

theorem within_act {op : Op} (here : P op) : (act op).Within P :=
  ⟨here, fun _ => trivial⟩

theorem within_call {request : Request} (here : P (.call request)) : (call request).Within P :=
  (within_act here).bind within_ofExcept

theorem within_sendStatusNotification {connectorId : Nat} {status : ChargePointStatus}
    (here : P (.call (.statusNotification connectorId status))) :
    (sendStatusNotification connectorId status).Within P :=
  (within_call here).bind fun _ => trivial

theorem within_withState {transactionId : Int} {body : ChargingStateEnumType → Async α}
    (lock : P (.lockState transactionId)) (unlock : P (.unlockState transactionId))
    (inside : ∀ state, (body state).Within P) : (withState transactionId body).Within P :=
  (within_act lock).bind fun state =>
    (inside state).attempt.bind fun _ => (within_act unlock).bind fun _ => within_ofExcept _

theorem within_onlyIf {condition : Bool} {body : Async Unit} (inside : body.Within P) :
    (onlyIf condition body).Within P := by
  unfold onlyIf
  split
  · exact inside
  · trivial

theorem within_installGiven {evseId : Int} {chargingProfile : Option ChargingProfileType}
    (here : ∀ profile ∈ chargingProfile, P (.installTxProfile evseId profile)) :
    (installGiven evseId chargingProfile).Within P := by
  cases chargingProfile with
  | none => trivial
  | some profile => exact within_act (here profile rfl)

variable (config : Config)

def startOps (connectorId : Nat) : Op → Prop
  | .insertActive _ target => target = connectorId
  | .setStatus target status => target = connectorId ∧ status = .charging
  | .findActive _ | .getSession _ | .lockState _ | .unlockState _ | .claimSeqNo _ | .setState ..
  | .authorize _ | .setIdentity .. | .installTxProfile .. | .mintTransactionId | .insertSession ..
  | .takeReservationsOn _ | .removeTimers _ | .registerSampler .. | .call _ => True
  | _ => False

def foldOps (connectorId : Nat) (chargingProfile : Option ChargingProfileType) : Op → Prop
  | .setStatus target status => target = connectorId ∧ status = .charging
  | .installTxProfile _ profile => profile ∈ chargingProfile
  | .findActive _ | .getSession _ | .lockState _ | .unlockState _ | .claimSeqNo _ | .setState ..
  | .authorize _ | .setIdentity .. | .takeReservationsOn _ | .removeTimers _ | .registerSampler .. | .call _ => True
  | _ => False

def openOps (chargingProfile : Option ChargingProfileType) : Op → Prop
  | .installTxProfile _ profile => profile ∈ chargingProfile
  | .mintTransactionId | .insertSession .. | .call _ => True
  | _ => False

theorem startOps_of_foldOps {connectorId : Nat} {chargingProfile : Option ChargingProfileType} {op : Op}
    (folds : foldOps connectorId chargingProfile op) : startOps connectorId op := by
  cases op <;> first | exact folds | exact folds.elim | trivial

theorem startOps_of_openOps {connectorId : Nat} {chargingProfile : Option ChargingProfileType} {op : Op}
    (opens : openOps chargingProfile op) : startOps connectorId op := by
  cases op <;> first | exact opens | exact opens.elim | trivial

theorem energizeConnector_within (connectorId : Nat) (transactionId : Int)
    (chargingProfile : Option ChargingProfileType) :
    (energizeConnector config connectorId transactionId).Within (foldOps connectorId chargingProfile) := by
  refine (within_act trivial).bind fun consumed => ?_
  refine (within_onlyIf (within_act trivial)).bind fun _ => ?_
  refine (within_onlyIf (within_act ⟨rfl, rfl⟩)).bind fun _ => ?_
  refine (within_sendStatusNotification trivial).bind fun _ => ?_
  exact within_act trivial

theorem foldAuthorizationOntoPlugOpen_within (connectorId : Nat) (idTag : String)
    (chargingProfile : Option ChargingProfileType) (groupIdToken : Option IdTokenType) :
    (foldAuthorizationOntoPlugOpen config connectorId idTag chargingProfile groupIdToken).Within
      (foldOps connectorId chargingProfile) := by
  refine (within_act trivial).bind fun found => ?_
  cases found with
  | none => trivial
  | some transactionId =>
      refine (within_act trivial).bind fun session => ?_
      cases session with
      | none => trivial
      | some session =>
          dsimp only
          split_ifs
          · trivial
          refine (within_withState trivial trivial fun state => ?_).bind fun advanced => ?_
          · split_ifs
            · trivial
            · refine (within_sendStatusNotification trivial).bind fun _ => ?_
              refine (within_act trivial).bind fun seqNo => ?_
              refine (within_call trivial).bind fun _ => ?_
              refine (within_act trivial).bind fun _ => ?_
              exact (within_act trivial).bind fun _ => trivial
          · split_ifs
            · trivial
            · refine (within_act trivial).bind fun _ => ?_
              refine (within_installGiven fun _ => id).bind fun _ => ?_
              exact (energizeConnector_within config connectorId transactionId _).bind fun _ => trivial

theorem openTransaction_within (connectorId : Nat) (idTag : String) (meterStart : Int)
    (remoteStartId : Option Int) (chargingProfile : Option ChargingProfileType)
    (groupIdToken : Option IdTokenType) :
    (openTransaction config connectorId idTag meterStart remoteStartId chargingProfile
      groupIdToken).Within (openOps chargingProfile) := by
  unfold openTransaction
  cases config.protocolVersion with
  | v16j =>
      refine (within_call trivial).bind fun response => ?_
      split_ifs <;> trivial
  | v201 =>
      refine (within_act trivial).bind fun transactionId => ?_
      refine (within_call trivial).bind fun response => ?_
      split
      · trivial
      · refine (within_act trivial).bind fun _ => ?_
        exact (within_installGiven fun _ => id).bind fun _ => trivial

/-- A start folds onto a plugged session, or opens a transaction and records it. -/
theorem within_startTransaction {connectorId : Nat} {idTag : String} {meterStart : Int} {remoteStartId : Option Int}
    {chargingProfile : Option ChargingProfileType} {groupIdToken : Option IdTokenType}
    (folding : ∀ op, foldOps connectorId chargingProfile op → P op) (opening : ∀ op, openOps chargingProfile op → P op)
    (recording : ∀ transactionId, P (.insertActive transactionId connectorId)) :
    (startTransactionWithRemoteStartId config connectorId idTag meterStart remoteStartId
      chargingProfile groupIdToken).Within P := by
  refine ((foldAuthorizationOntoPlugOpen_within config connectorId idTag chargingProfile
    groupIdToken).mono folding).bind fun folded => ?_
  cases folded with
  | some transactionId => trivial
  | none =>
      refine (within_sendStatusNotification (folding _ trivial)).bind fun _ => ?_
      refine ((openTransaction_within config connectorId idTag meterStart remoteStartId chargingProfile
        groupIdToken).mono opening).bind fun transactionId => ?_
      refine (within_act (recording transactionId)).bind fun _ => ?_
      exact ((energizeConnector_within config connectorId transactionId _).mono folding).bind fun _ => trivial

theorem startTransactionWithRemoteStartId_within (connectorId : Nat) (idTag : String)
    (meterStart : Int) (remoteStartId : Option Int) (chargingProfile : Option ChargingProfileType)
    (groupIdToken : Option IdTokenType) :
    (startTransactionWithRemoteStartId config connectorId idTag meterStart remoteStartId
      chargingProfile groupIdToken).Within (startOps connectorId) :=
  within_startTransaction config (fun _ => startOps_of_foldOps) (fun _ => startOps_of_openOps) fun _ => rfl

def driveOps : Op → Prop
  | .findActive _ | .getSession _ | .lockState _ | .unlockState _ | .claimSeqNo _ | .setState ..
  | .call _ => True
  | _ => False

theorem emitTransactionStateChange_within (evseId : Int) (newState : ChargingStateEnumType)
    (triggerReason : TriggerReasonEnumType) :
    (emitTransactionStateChange evseId newState triggerReason).Within driveOps := by
  refine (within_act trivial).bind fun found => ?_
  cases found with
  | none => trivial
  | some transactionId =>
      refine (within_act trivial).bind fun session => ?_
      cases session with
      | none => trivial
      | some session =>
          refine within_withState trivial trivial fun state => ?_
          split_ifs
          · trivial
          · refine (within_act trivial).bind fun seqNo => ?_
            refine (within_call trivial).bind fun _ => ?_
            exact (within_act trivial).bind fun _ => trivial

theorem transitionChargingState_within (evseId : Int) (newState : ChargingStateEnumType) :
    (transitionChargingState config evseId newState).Within driveOps := by
  unfold transitionChargingState
  split
  · trivial
  · exact emitTransactionStateChange_within evseId _ _
  · exact emitTransactionStateChange_within evseId _ _
  · exact emitTransactionStateChange_within evseId _ _
  · trivial

def plugOps (evseId : Int) : Op → Prop
  | .insertActive _ target => (target : Int) = evseId
  | .mintTransactionId | .insertSession .. => True
  | op => driveOps op

theorem openTransactionOnCablePlug_within (evseId : Int) :
    (openTransactionOnCablePlug config evseId).Within (plugOps evseId) := by
  unfold openTransactionOnCablePlug
  split
  · trivial
  case h_2 connectorId found =>
    have known := (Option.mem_filter_iff.mp found).1
    simp only [connectorOf, Option.mem_def, Option.ite_none_right_eq_some, Option.some.injEq] at known
    refine (within_act trivial).bind fun transactionId => ?_
    refine (within_call trivial).bind fun _ => ?_
    refine (within_act trivial).bind fun _ => ?_
    refine (within_act ?_).bind fun _ => trivial
    simp only [plugOps]
    omega

theorem plugInCable_within (evseId : Int) : (plugInCable config evseId).Within (plugOps evseId) := by
  unfold plugInCable
  cases config.protocolVersion with
  | v16j => trivial
  | v201 =>
      refine ((emitTransactionStateChange_within evseId _ _).mono fun op inside => ?_).bind
        fun outcome => ?_
      · cases op <;> first | exact inside | exact inside.elim
      · split
        · split_ifs
          · exact openTransactionOnCablePlug_within config evseId
          · trivial
        · trivial

def reportOps : Op → Prop
  | .listActive | .claimListedSeqNo _ | .call _ => True
  | _ => False

theorem v201MeterSamplerTick_within (transactionId : Int) (connectorId : Nat) :
    (v201MeterSamplerTick config transactionId connectorId).Within reportOps := by
  refine (within_act trivial).bind fun claimed => ?_
  cases claimed with
  | none => trivial
  | some seqNo =>
      dsimp only
      split_ifs
      · exact (within_call trivial).attempt.bind fun _ => trivial
      · trivial

theorem triggerV201TransactionEvent_within (evseId : Option Int) :
    (triggerV201TransactionEvent config evseId).Within reportOps := by
  refine (within_act trivial).bind fun active => ?_
  refine Within.forM (fun target => ?_) _
  refine (within_act trivial).bind fun claimed => ?_
  cases claimed with
  | none => trivial
  | some seqNo =>
      dsimp only
      split_ifs
      · exact (within_call trivial).attempt.bind fun _ => trivial
      · trivial

def deferredCommand : RemoteCommand → Prop
  | .reset _ => True
  | .v201ApplyAvailability _ _ scheduled => scheduled.isSome
  | _ => False

def stopOps : Op → Prop
  | .getActive _ | .stopSampler _ | .clearTxProfile _ | .removeSession _ | .claimSeqNo _ | .call _
  | .removeActive _ | .takeIfIdle => True
  | .setStatus _ status => status = .available
  | .enqueue command => deferredCommand command
  | _ => False

def closeOps : Op → Prop
  | .stopSampler _ | .clearTxProfile _ | .removeSession _ | .claimSeqNo _ | .call _ => True
  | _ => False

theorem closeTransaction_within (connectorId : Nat) (transactionId meterStop : Int) (reason : Reason) :
    (closeTransaction config connectorId transactionId meterStop reason).Within closeOps := by
  unfold closeTransaction
  cases config.protocolVersion with
  | v16j => exact (within_call trivial).bind fun _ => trivial
  | v201 =>
      refine (within_act trivial).bind fun _ => ?_
      refine (within_act trivial).bind fun _ => ?_
      refine (within_act trivial).bind fun session => ?_
      cases session with
      | none => trivial
      | some session =>
          refine (within_act trivial).bind fun seqNo => ?_
          exact (within_call trivial).bind fun _ => trivial

theorem applyDeferred_within (armed : Option PendingAvailability) :
    (applyDeferred config armed).Within fun op =>
      ∃ command, op = .enqueue command ∧ deferredCommand command := by
  cases armed with
  | none => trivial
  | some pending => exact Within.forM (fun connectorId => within_act ⟨_, rfl, rfl⟩) _

theorem resetDeferred_within (armed : Option ResetType) :
    (resetDeferred armed).Within fun op => ∃ command, op = .enqueue command ∧ deferredCommand command := by
  cases armed with
  | none => trivial
  | some resetType => exact within_act ⟨_, rfl, trivial⟩

def drainOps : Op → Prop
  | .takeIfIdle => True
  | .enqueue command => deferredCommand command
  | _ => False

theorem drainDeferred_within : (drainDeferred config).Within drainOps := by
  have queued : ∀ op, (∃ command, op = .enqueue command ∧ deferredCommand command) → drainOps op := by
    rintro op ⟨command, rfl, deferred⟩
    exact deferred
  refine (within_act trivial).bind fun armed => ?_
  exact ((applyDeferred_within config armed.2).mono queued).bind fun _ =>
    (resetDeferred_within armed.1).mono queued

theorem stopTransaction_within (transactionId meterStop : Int) (reason : Reason) :
    (stopTransaction config transactionId meterStop reason).Within stopOps := by
  refine (within_act trivial).bind fun found => ?_
  cases found with
  | none => trivial
  | some connectorId =>
      have closed := closeTransaction_within config connectorId transactionId meterStop reason
      refine (closed.mono fun op inside => ?_).bind fun _ => ?_
      · cases op <;> first | exact inside | exact inside.elim
      refine (within_sendStatusNotification trivial).bind fun _ => ?_
      refine (within_act trivial).bind fun _ => ?_
      refine (within_act trivial).bind fun _ => ?_
      refine (within_onlyIf (within_act (by simp [stopOps]))).bind fun _ => ?_
      refine (within_sendStatusNotification trivial).bind fun _ => ?_
      refine (drainDeferred_within config).mono fun op inside => ?_
      cases op <;> first | exact inside | exact inside.elim

def resetOps : Op → Prop
  | .takeReset | .listActive | .drainSamplers => True
  | op => stopOps op

theorem performReset_within (resetType : ResetType) :
    (performReset config resetType).Within resetOps := by
  refine (within_act trivial).bind fun _ => ?_
  refine (within_act trivial).bind fun active => ?_
  refine (Within.forM (fun target => ?_) _).bind fun _ => within_act trivial
  refine ((stopTransaction_within config target.1 0 _).mono fun op inside => ?_).attempt.bind
    fun _ => trivial
  cases op <;> first | exact inside | exact inside.elim

/-- The commands an inbound request queues besides resets and availability changes. -/
def requestedCommand : RemoteCommand → Prop
  | .startTransaction .. | .stopTransaction _ | .v201TriggerTransactionEvent _ => True
  | _ => False

def requestOps : Op → Prop
  | .getStatus _ | .getActive _ => True
  | .enqueue command => requestedCommand command
  | _ => False

theorem remoteStartTransaction_within (connectorId : Option Nat) (idTag : String) :
    (remoteStartTransaction config connectorId idTag).Within requestOps := by
  unfold remoteStartTransaction
  dsimp only
  split_ifs
  · trivial
  · refine (within_act trivial).bind fun status => ?_
    split_ifs
    · exact (within_act trivial).bind fun _ => trivial
    · trivial

theorem requestStartTransaction_within (req : RequestStartTransactionRequest) :
    (requestStartTransaction config req).Within requestOps := by
  unfold requestStartTransaction
  split_ifs
  · trivial
  · split
    · trivial
    · refine (within_act trivial).bind fun status => ?_
      split_ifs
      · exact (within_act trivial).bind fun _ => trivial
      · trivial

theorem remoteStopTransaction_within (transactionId : Int) :
    (remoteStopTransaction transactionId).Within requestOps := by
  refine (within_act trivial).bind fun found => ?_
  cases found with
  | none => trivial
  | some connectorId => exact (within_act trivial).bind fun _ => trivial

theorem triggerTransactionEvent_within (evseId : Option Int) :
    (triggerTransactionEvent evseId).Within requestOps :=
  (within_act trivial).bind fun _ => trivial

theorem v16jReset_within (resetType : ResetType) :
    (v16jReset resetType).Within fun op => op = .enqueue (.reset resetType) := by
  refine (within_act ?_).bind fun _ => trivial
  rfl

def v201ResetOps (kind : ResetEnumType) : Op → Prop
  | .readActive => True
  | .enqueue command => command = .reset (v201ResetResetType kind)
  | .armReset resetType => resetType = v201ResetResetType kind
  | _ => False

theorem v201Reset_within (kind : ResetEnumType) : (v201Reset kind).Within (v201ResetOps kind) := by
  refine (within_act trivial).bind fun active => ?_
  split
  · exact (within_act (by simp [v201ResetOps])).bind fun _ => trivial
  · exact (within_act (by simp [v201ResetOps])).bind fun _ => trivial
  · trivial

def changeAvailabilityOps (evseId : Option Int) : Op → Prop
  | .readActive => True
  | .enqueue command => ∃ connectorId target, command = .v201ApplyAvailability connectorId target none
  | .armAvailability armed _ => armed = evseId
  | _ => False

theorem v201ChangeAvailability_within (evseId : Option Int) (target : OperationalStatusEnumType) :
    (v201ChangeAvailability config evseId target).Within (changeAvailabilityOps evseId) := by
  unfold v201ChangeAvailability
  dsimp only
  split_ifs
  · trivial
  · refine (within_act trivial).bind fun active => ?_
    split
    · exact (Within.forM (fun connectorId => within_act ⟨_, _, rfl⟩) _).bind fun _ => trivial
    · exact (within_act (by simp [changeAvailabilityOps])).bind fun _ => trivial
    · trivial

def applyOps (connectorId : Nat) : Op → Prop
  | .setStatus target _ => target = connectorId
  | .call request => ∃ status, request = .statusNotification connectorId status
  | _ => False

theorem applyV201Availability_within (connectorId : Nat) (target : OperationalStatusEnumType) :
    (applyV201Availability config connectorId target).Within (applyOps connectorId) := by
  unfold applyV201Availability
  split_ifs
  · refine (within_act (by simp [applyOps])).bind fun _ => ?_
    exact (within_sendStatusNotification ⟨_, rfl⟩).attempt.bind fun _ => trivial
  · trivial

/-- Status reports are the only commands reservations queue. -/
def reportCommand : RemoteCommand → Prop
  | .emitConnectorStatus .. | .v201ReservationStatusUpdate .. => True
  | _ => False

def reserveOps : Op → Prop
  | .getStatus _ | .setReservedFor .. | .insertReservation .. | .armTimer _ => True
  | .setStatus _ status => status = .reserved
  | .enqueue command => reportCommand command
  | _ => False

theorem reserve_within (connectorId : Nat) (idTag : String) :
    (reserve connectorId idTag).Within reserveOps := by
  refine (within_act trivial).bind fun status => ?_
  split_ifs
  · refine (within_act trivial).bind fun _ => ?_
    exact (within_act (by simp [reserveOps])).bind fun _ => trivial
  · trivial

theorem v16jReserveNow_within (now : DateTime) (req : ReserveNowRequest) :
    (v16jReserveNow config now req).Within reserveOps := by
  unfold v16jReserveNow
  split_ifs
  · trivial
  · split
    · trivial
    · refine (within_act trivial).bind fun status => ?_
      split_ifs
      · trivial
      · refine (reserve_within _ _).bind fun reserved => ?_
        split_ifs
        · trivial
        · refine (within_act trivial).bind fun number => ?_
          refine (within_act trivial).bind fun _ => ?_
          exact (within_act trivial).bind fun _ => trivial

theorem v201ReserveNow_within (rfc : Rfc3339) (now : DateTime) (req : V201ReserveNowRequest) :
    (v201ReserveNow config rfc now req).Within reserveOps := by
  unfold v201ReserveNow
  dsimp only
  split
  · split_ifs
    · trivial
    · split <;> trivial
  · refine (within_act trivial).bind fun status => ?_
    split_ifs
    · trivial
    · trivial
    · refine (reserve_within _ _).bind fun reserved => ?_
      split_ifs
      · trivial
      · refine (within_act trivial).bind fun number => ?_
        refine (within_act trivial).bind fun _ => ?_
        exact (within_onlyIf (within_act trivial)).bind fun _ => trivial

def releaseOps : Op → Prop
  | .getStatus _ | .removeReservation _ | .expireReservation .. | .removeTimers _ => True
  | .setReservedFor _ idTag => idTag = none
  | .setStatus _ status => status = .available
  | .enqueue command => reportCommand command
  | _ => False

theorem freeReserved_within (connectorId : Nat) : (freeReserved config connectorId).Within releaseOps := by
  unfold freeReserved
  split_ifs
  · refine (within_act trivial).bind fun status => ?_
    refine Within.bind ?_ fun _ => ?_
    · refine (within_act (by simp [releaseOps])).bind fun _ => ?_
      refine (within_act trivial).bind fun status => ?_
      split_ifs
      · exact within_act (by simp [releaseOps])
      · trivial
    · split_ifs
      · exact within_act trivial
      · trivial
  · trivial

theorem reportReservation_within (reservationId : Int) (status : ReservationUpdateStatusEnumType) :
    (reportReservation config reservationId status).Within releaseOps := by
  unfold reportReservation
  cases config.protocolVersion with
  | v16j => trivial
  | v201 => exact within_act trivial

theorem cancelReservationRequest_within (reservationId : Int) :
    (cancelReservationRequest config reservationId).Within releaseOps := by
  refine (within_act trivial).bind fun held => ?_
  cases held with
  | none => trivial
  | some connectorId =>
      refine (within_act trivial).bind fun _ => ?_
      refine (freeReserved_within config connectorId).bind fun _ => ?_
      exact (reportReservation_within config reservationId _).bind fun _ => trivial

theorem expireReservation_within (timer : ReservationTimer) :
    (expireReservation config timer).Within releaseOps := by
  refine (within_act trivial).bind fun expired => ?_
  split_ifs
  · refine (freeReserved_within config timer.connectorId).bind fun _ => ?_
    exact reportReservation_within config timer.reservationId _
  · trivial

def profileOps : Op → Prop
  | .readActive | .readTxProfiles | .installTxProfile .. | .clearTxProfile _ => True
  | _ => False

theorem v201SetChargingProfile_within (evseId : Int) (profile : ChargingProfileType) :
    (v201SetChargingProfile evseId profile).Within profileOps := by
  refine (within_act trivial).bind fun active => ?_
  dsimp only
  split_ifs
  · trivial
  · exact (within_act trivial).bind fun _ => trivial
  · trivial

theorem v201ClearChargingProfile_within (chargingProfileId : Option Int)
    (criteria : Option ClearChargingProfileType) :
    (v201ClearChargingProfile chargingProfileId criteria).Within profileOps := by
  refine (within_act trivial).bind fun installed => ?_
  refine Within.forM (fun target => ?_) _
  dsimp only
  split_ifs
  · exact within_act trivial
  · trivial

/-! ## The footprint of a call -/

def RemoteCommand.ops : RemoteCommand → Op → Prop
  | reset _ => resetOps
  | startTransaction connectorId .. => startOps connectorId
  | stopTransaction _ => stopOps
  | v201TriggerTransactionEvent _ => reportOps
  | v201ReservationStatusUpdate .. | emitConnectorStatus .. => fun op =>
      ∃ request, op = .call request ∧ ∀ event, request ≠ .transactionEvent event
  | v201ApplyAvailability connectorId .. => applyOps connectorId

def Call.ops : Call → Op → Prop
  | startTransaction connectorId .. => startOps connectorId
  | stopTransaction .. => stopOps
  | plugInCable evseId => plugOps evseId
  | transitionChargingState .. => driveOps
  | deauthorize _ => fun op => ∃ idTag, op = .deauthorizeSessions idTag
  | samplerTick .. => reportOps
  | remoteStartTransaction .. | requestStartTransaction _ | remoteStopTransaction _
  | triggerTransactionEvent _ => requestOps
  | v16jReset resetType => fun op => op = .enqueue (.reset resetType)
  | v201Reset kind => v201ResetOps kind
  | v201ChangeAvailability evseId _ => changeAvailabilityOps evseId
  | v16jReserveNow .. | v201ReserveNow .. => reserveOps
  | cancelReservation _ | expire .. => releaseOps
  | v201SetChargingProfile .. | v201ClearChargingProfile .. => profileOps
  | command queued => queued.ops

theorem RemoteCommand.run_within (queued : RemoteCommand) : (queued.run config).Within queued.ops := by
  cases queued with
  | reset resetType => exact performReset_within config resetType
  | startTransaction connectorId idTag remoteStartId chargingProfile groupIdToken =>
      exact (startTransactionWithRemoteStartId_within config connectorId idTag 0 remoteStartId
        chargingProfile groupIdToken).bind fun _ => trivial
  | stopTransaction transactionId => exact stopTransaction_within config transactionId 0 _
  | v201TriggerTransactionEvent evseId => exact triggerV201TransactionEvent_within config evseId
  | v201ReservationStatusUpdate reservationId status =>
      exact (within_call ⟨_, rfl, by simp⟩).bind fun _ => trivial
  | emitConnectorStatus connectorId status =>
      exact within_sendStatusNotification ⟨_, rfl, by simp⟩
  | v201ApplyAvailability connectorId target scheduled =>
      exact applyV201Availability_within config connectorId target

theorem Call.run_within (rfc : Rfc3339) (call : Call) : (call.run config rfc).Within call.ops := by
  cases call with
  | startTransaction connectorId idTag meterStart =>
      exact (startTransactionWithRemoteStartId_within config connectorId idTag meterStart none none
        none).bind fun _ => trivial
  | stopTransaction transactionId meterStop reason =>
      exact stopTransaction_within config transactionId meterStop reason
  | plugInCable evseId => exact (plugInCable_within config evseId).bind fun _ => trivial
  | transitionChargingState evseId newState =>
      exact (transitionChargingState_within config evseId newState).bind fun _ => trivial
  | deauthorize idTag => exact (within_act ⟨idTag, rfl⟩).bind fun _ => trivial
  | samplerTick transactionId connectorId =>
      exact v201MeterSamplerTick_within config transactionId connectorId
  | remoteStartTransaction connectorId idTag =>
      exact (remoteStartTransaction_within config connectorId idTag).bind fun _ => trivial
  | requestStartTransaction req =>
      exact (requestStartTransaction_within config req).bind fun _ => trivial
  | remoteStopTransaction transactionId =>
      exact (remoteStopTransaction_within transactionId).bind fun _ => trivial
  | triggerTransactionEvent evseId =>
      exact (triggerTransactionEvent_within evseId).bind fun _ => trivial
  | v16jReset resetType => exact (v16jReset_within resetType).bind fun _ => trivial
  | v201Reset kind => exact (v201Reset_within kind).bind fun _ => trivial
  | v201ChangeAvailability evseId target =>
      exact (v201ChangeAvailability_within config evseId target).bind fun _ => trivial
  | v16jReserveNow now req => exact (v16jReserveNow_within config now req).bind fun _ => trivial
  | v201ReserveNow now req => exact (v201ReserveNow_within config rfc now req).bind fun _ => trivial
  | cancelReservation reservationId =>
      exact (cancelReservationRequest_within config reservationId).bind fun _ => trivial
  | expire handle timer => exact expireReservation_within config timer
  | v201SetChargingProfile evseId profile =>
      exact (v201SetChargingProfile_within evseId profile).bind fun _ => trivial
  | v201ClearChargingProfile chargingProfileId criteria =>
      exact v201ClearChargingProfile_within chargingProfileId criteria
  | command queued => exact queued.run_within config

theorem within_step {rfc : Rfc3339} {system system' : System} {action : Action}
    (each : system.Each fun call p => p.Within call.ops)
    (stepped : system.step config rfc action = some system') :
    system'.Each fun call p => p.Within call.ops := by
  refine Pool.each_step ?_ (fun _ _ _ result within => within.2 result) each stepped
  intro s task call p s' started
  rw [(Call.start_shared started).1]
  exact call.run_within config rfc

end Ocpp.ChargePoint
