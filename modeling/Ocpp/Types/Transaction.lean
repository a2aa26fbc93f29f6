import Ocpp.Messages.V16j
import Ocpp.Types.Charging

/-!
# Transactions

The enumerations around a transaction in the two dialects, and the `TransactionEvent` requests of
`v201_transaction.rs`. Timestamps and meter values are left out of the requests.
-/

namespace Ocpp

inductive OcppVersion
  | v16j
  | v201
  deriving DecidableEq, Repr

inductive ResetType
  | hard
  | soft
  deriving DecidableEq, Repr

def AuthorizationStatus.debug : AuthorizationStatus → String
  | accepted => "Accepted"
  | blocked => "Blocked"
  | expired => "Expired"
  | invalid => "Invalid"
  | concurrentTx => "ConcurrentTx"

namespace V201
open V16j

def AuthorizationStatusEnumType.debug : AuthorizationStatusEnumType → String
  | accepted => "Accepted"
  | blocked => "Blocked"
  | concurrentTx => "ConcurrentTx"
  | expired => "Expired"
  | invalid => "Invalid"
  | noCredit => "NoCredit"
  | notAllowedTypeEvse => "NotAllowedTypeEvse"
  | notAtThisLocation => "NotAtThisLocation"
  | notAtThisTime => "NotAtThisTime"
  | unknown => "Unknown"

inductive ResetEnumType
  | immediate
  | onIdle
  deriving DecidableEq, Repr

inductive OperationalStatusEnumType
  | inoperative
  | operative
  deriving DecidableEq, Repr

inductive ChargingStateEnumType
  | charging
  | evConnected
  | suspendedEV
  | suspendedEVSE
  | idle
  deriving DecidableEq, Repr

def ChargingStateEnumType.debug : ChargingStateEnumType → String
  | charging => "Charging"
  | evConnected => "EVConnected"
  | suspendedEV => "SuspendedEV"
  | suspendedEVSE => "SuspendedEVSE"
  | idle => "Idle"

inductive TransactionEventEnumType
  | ended
  | started
  | updated
  deriving DecidableEq, Repr

inductive TriggerReasonEnumType
  | authorized
  | cablePluggedIn
  | chargingStateChanged
  | deauthorized
  | meterValuePeriodic
  | trigger
  | unlockCommand
  | stopAuthorized
  | evDeparted
  | remoteStop
  | abnormalCondition
  | resetCommand
  deriving DecidableEq, Repr

inductive ReasonEnumType
  | deAuthorized
  | emergencyStop
  | evDisconnected
  | immediateReset
  | local
  | other
  | powerLoss
  | reboot
  | remote
  deriving DecidableEq, Repr

def reasonToV201 : Reason → ReasonEnumType
  | .emergencyStop => .emergencyStop
  | .evDisconnected => .evDisconnected
  | .hardReset => .immediateReset
  | .local => .local
  | .other => .other
  | .powerLoss => .powerLoss
  | .reboot | .softReset => .reboot
  | .remote | .unlockCommand => .remote
  | .deAuthorized => .deAuthorized

def reasonToV201Trigger : Reason → TriggerReasonEnumType
  | .evDisconnected => .evDeparted
  | .remote => .remoteStop
  | .unlockCommand => .unlockCommand
  | .hardReset | .softReset | .reboot => .resetCommand
  | .deAuthorized => .deauthorized
  | .emergencyStop | .powerLoss => .abnormalCondition
  | .local | .other => .stopAuthorized

structure TransactionEventRequest where
  eventType : TransactionEventEnumType
  triggerReason : TriggerReasonEnumType
  seqNo : Int
  transactionId : Int
  evseId : Int
  chargingState : ChargingStateEnumType
  stoppedReason : Option ReasonEnumType
  remoteStartId : Option Int
  idToken : Option String
  deriving DecidableEq, Repr

def transactionEventStarted (transactionId evseId : Int) (idTag : String)
    (remoteStartId : Option Int) : TransactionEventRequest :=
  ⟨.started, .authorized, 0, transactionId, evseId, .charging, none, remoteStartId, some idTag⟩

def transactionEventStartedOnCablePlug (transactionId evseId : Int) : TransactionEventRequest :=
  ⟨.started, .cablePluggedIn, 0, transactionId, evseId, .evConnected, none, none, none⟩

def transactionEventUpdated (transactionId evseId seqNo : Int) : TransactionEventRequest :=
  ⟨.updated, .meterValuePeriodic, seqNo, transactionId, evseId, .charging, none, none, none⟩

def transactionEventTriggered (transactionId evseId seqNo : Int) : TransactionEventRequest :=
  ⟨.updated, .trigger, seqNo, transactionId, evseId, .charging, none, none, none⟩

def transactionEventStateTransition (transactionId evseId seqNo : Int)
    (triggerReason : TriggerReasonEnumType) (newState : ChargingStateEnumType) :
    TransactionEventRequest :=
  ⟨.updated, triggerReason, seqNo, transactionId, evseId, newState, none, none, none⟩

def transactionEventEnded (transactionId evseId seqNo : Int) (idTag : String) (reason : Reason) :
    TransactionEventRequest :=
  ⟨.ended, reasonToV201Trigger reason, seqNo, transactionId, evseId, .idle,
    some (reasonToV201 reason), none, some idTag⟩

end V201

end Ocpp
