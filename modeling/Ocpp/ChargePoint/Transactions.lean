import Ocpp.ChargePoint.Station

/-!
# Transactions of a charge point

The calls of `ChargePoint` that open, drive and close transactions, step by step as the source makes
them: every access to the shared state and every CALL is one operation, and `?` returns early.
-/

namespace Ocpp.ChargePoint
open Library V16j V201

variable (config : Config)

def call (request : Request) : Async Response := do
  Program.ofExcept (← act (.call request))

def sendStatusNotification (connectorId : Nat) (status : ChargePointStatus) : Async Unit := do
  let _ ← call (.statusNotification connectorId status)

def onlyIf (condition : Bool) (body : Async Unit) : Async Unit :=
  if condition then body else pure ()

def installGiven (evseId : Int) : Option ChargingProfileType → Async Unit
  | some profile => act (.installTxProfile evseId profile)
  | none => pure ()

/-- `ConnectorId::new` of an EVSE id, which is one-based. -/
def connectorOf (evseId : Int) : Option Nat :=
  if 1 ≤ evseId then some evseId.toNat else none

/-- The charging state of a session under its mutex, which is released on every way out. -/
def withState {α : Type} (transactionId : Int) (body : ChargingStateEnumType → Async α) : Async α := do
  let state ← act (.lockState transactionId)
  let outcome ← (body state).attempt
  act (.unlockState transactionId)
  Program.ofExcept outcome

/-! ## Starting -/

def energizeConnector (connectorId : Nat) (transactionId : Int) : Async Unit := do
  let consumed ← act (.takeReservationsOn connectorId)
  onlyIf (!consumed.isEmpty) (act (.removeTimers consumed))
  onlyIf (connectorId ∈ config.connectors) (act (.setStatus connectorId .charging))
  sendStatusNotification connectorId .charging
  act (.registerSampler transactionId connectorId)

/-- Authorizes a transaction that a cable plug opened, instead of opening another one. -/
def foldAuthorizationOntoPlugOpen (connectorId : Nat) (idTag : String)
    (chargingProfile : Option ChargingProfileType) (groupIdToken : Option IdTokenType) :
    Async (Option Int) := do
  match ← act (.findActive connectorId) with
  | none => return none
  | some transactionId =>
      match ← act (.getSession transactionId) with
      | none => return none
      | some session =>
          if !session.plugInitiated then
            return none
          let advanced ← withState transactionId fun state => do
            if state ≠ .evConnected then
              return false
            sendStatusNotification connectorId .preparing
            let seqNo ← act (.claimSeqNo transactionId)
            let _ ← call (.transactionEvent
              (transactionEventStateTransition transactionId connectorId seqNo .authorized .charging))
            act (.setState transactionId .charging)
            act (.authorize transactionId)
            return true
          if !advanced then
            return some transactionId
          act (.setIdentity transactionId idTag groupIdToken)
          installGiven connectorId chargingProfile
          energizeConnector config connectorId transactionId
          return some transactionId

def openTransaction (connectorId : Nat) (idTag : String) (meterStart : Int)
    (remoteStartId : Option Int) (chargingProfile : Option ChargingProfileType)
    (groupIdToken : Option IdTokenType) : Async Int :=
  match config.protocolVersion with
  | .v16j => do
      let response ← call (.startTransaction connectorId idTag meterStart)
      if response.idTagStatus ≠ .accepted then
        Program.fail (.authorization
          ("StartTransaction rejected: idTagInfo.status = " ++ response.idTagStatus.debug))
      else
        return response.transactionId
  | .v201 => do
      let transactionId ← act .mintTransactionId
      let response ← call (.transactionEvent
        (transactionEventStarted transactionId connectorId idTag remoteStartId))
      match response.idTokenStatus.filter (· ≠ .accepted) with
      | some status =>
          Program.fail (.authorization
            ("TransactionEvent(Started) rejected: idTokenInfo.status = " ++ status.debug))
      | none =>
          act (.insertSession transactionId ⟨idTag, false, groupIdToken⟩ ⟨1, true, .charging, false⟩)
          installGiven connectorId chargingProfile
          return transactionId

def startTransactionWithRemoteStartId (connectorId : Nat) (idTag : String) (meterStart : Int)
    (remoteStartId : Option Int) (chargingProfile : Option ChargingProfileType)
    (groupIdToken : Option IdTokenType) : Async Int := do
  match ← foldAuthorizationOntoPlugOpen config connectorId idTag chargingProfile groupIdToken with
  | some transactionId => return transactionId
  | none =>
      sendStatusNotification connectorId .preparing
      let transactionId ← openTransaction config connectorId idTag meterStart remoteStartId
        chargingProfile groupIdToken
      act (.insertActive transactionId connectorId)
      energizeConnector config connectorId transactionId
      return transactionId

def startTransaction (connectorId : Nat) (idTag : String) (meterStart : Int) : Async Int :=
  startTransactionWithRemoteStartId config connectorId idTag meterStart none none none

/-! ## Driving -/

inductive ChargingStateChangeOutcome
  | emitted (seqNo : Int)
  | redundant
  | noTransaction
  | opened (transactionId seqNo : Int)
  deriving DecidableEq, Repr

def emitTransactionStateChange (evseId : Int) (newState : ChargingStateEnumType)
    (triggerReason : TriggerReasonEnumType) : Async ChargingStateChangeOutcome := do
  match ← act (.findActive evseId) with
  | none => return .noTransaction
  | some transactionId =>
      match ← act (.getSession transactionId) with
      | none => return .noTransaction
      | some _ =>
          withState transactionId fun state => do
            if state = newState then
              return .redundant
            let seqNo ← act (.claimSeqNo transactionId)
            let _ ← call (.transactionEvent
              (transactionEventStateTransition transactionId evseId seqNo triggerReason newState))
            act (.setState transactionId newState)
            return .emitted seqNo

def transitionChargingState (evseId : Int) (newState : ChargingStateEnumType) :
    Async ChargingStateChangeOutcome :=
  match config.protocolVersion, newState with
  | .v16j, _ => Program.fail (.notSupported
      "TransactionEvent(ChargingStateChanged) is an OCPP 2.0.1 message; not available on a 1.6J station")
  | .v201, .charging | .v201, .suspendedEV | .v201, .suspendedEVSE =>
      emitTransactionStateChange evseId newState .chargingStateChanged
  | .v201, other => Program.fail (.validationError
      ("transition_charging_state drives only the mid-transaction Charging/SuspendedEV/SuspendedEVSE " ++
        "states, got " ++ other.debug))

def openTransactionOnCablePlug (evseId : Int) : Async ChargingStateChangeOutcome :=
  match (connectorOf evseId).filter (· ∈ config.connectors) with
  | none => return .noTransaction
  | some connectorId => do
      let transactionId ← act .mintTransactionId
      let _ ← call (.transactionEvent (transactionEventStartedOnCablePlug transactionId evseId))
      act (.insertSession transactionId ⟨"", true, none⟩ ⟨1, false, .evConnected, false⟩)
      act (.insertActive transactionId connectorId)
      return .opened transactionId 0

def plugInCable (evseId : Int) : Async ChargingStateChangeOutcome :=
  match config.protocolVersion with
  | .v16j => Program.fail (.notSupported
      "TransactionEvent(CablePluggedIn) is an OCPP 2.0.1 message; not available on a 1.6J station")
  | .v201 => do
      match ← emitTransactionStateChange evseId .evConnected .cablePluggedIn with
      | .noTransaction =>
          if config.txOpensOnCablePlug then openTransactionOnCablePlug config evseId
          else return .noTransaction
      | other => return other

/-! ## Reporting -/

def triggerV201TransactionEvent (evseId : Option Int) : Async Unit := do
  let active ← act .listActive
  (active.filter fun (_, connectorId) => evseId.all (· = (connectorId : Int))).forM
    fun (transactionId, connectorId) => do
      match ← act (.claimListedSeqNo transactionId) with
      | none => pure ()
      | some seqNo =>
          if connectorId ∈ config.connectors then
            let _ ← (call (.transactionEvent
              (transactionEventTriggered transactionId connectorId seqNo))).attempt

/-- One tick of the 2.0.1 sampler; the frame is sent without waiting for its answer. -/
def v201MeterSamplerTick (transactionId : Int) (connectorId : Nat) : Async Unit := do
  match ← act (.claimListedSeqNo transactionId) with
  | none => pure ()
  | some seqNo =>
      if connectorId ∈ config.connectors then
        let _ ← (call (.transactionEvent
          (transactionEventUpdated transactionId connectorId seqNo))).attempt

/-! ## Stopping -/

def closeTransaction (connectorId : Nat) (transactionId meterStop : Int) (reason : Reason) :
    Async Unit :=
  match config.protocolVersion with
  | .v16j => do
      let _ ← call (.stopTransaction transactionId meterStop reason)
  | .v201 => do
      act (.stopSampler transactionId)
      act (.clearTxProfile connectorId)
      match ← act (.removeSession transactionId) with
      | none => pure ()
      | some session =>
          let seqNo ← act (.claimSeqNo transactionId)
          let _ ← call (.transactionEvent
            (transactionEventEnded transactionId connectorId seqNo session.idTag reason))

def deferredTargets (evseId : Option Int) : List Nat :=
  match evseId with
  | some id => (connectorOf id).toList
  | none => config.connectors

def applyDeferred : Option PendingAvailability → Async Unit
  | some pending => (deferredTargets config pending.evseId).forM fun connectorId =>
      act (.enqueue (.v201ApplyAvailability connectorId pending.target (some pending.number)))
  | none => pure ()

def resetDeferred : Option ResetType → Async Unit
  | some resetType => act (.enqueue (.reset resetType))
  | none => pure ()

/-- The deferred availability change and reset, once no transaction is left. -/
def drainDeferred : Async Unit := do
  let (armedReset, armedAvailability) ← act .takeIfIdle
  applyDeferred config armedAvailability
  resetDeferred armedReset

def stopTransaction (transactionId meterStop : Int) (reason : Reason) : Async Unit := do
  match ← act (.getActive transactionId) with
  | none => Program.fail (.notFound ("active transaction with ID " ++ toString transactionId))
  | some connectorId =>
      closeTransaction config connectorId transactionId meterStop reason
      sendStatusNotification connectorId .finishing
      act (.stopSampler transactionId)
      act (.removeActive transactionId)
      onlyIf (connectorId ∈ config.connectors) (act (.setStatus connectorId .available))
      sendStatusNotification connectorId .available
      drainDeferred config

end Ocpp.ChargePoint
