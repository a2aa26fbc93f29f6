import Ocpp.ChargePoint.Connector
import Ocpp.Library.Bounded
import Ocpp.Library.HashMap
import Ocpp.Library.Transition
import Ocpp.Types.Time

/-!
# The transaction manager

`transaction.rs`: the running transactions by their connectors, and the history of those that the manager has stopped. A
transaction can also be driven where it is, and may then be finished while it is still among the running ones. Integers
have 32 bits and their operators wrap around.
-/

namespace Ocpp.ChargePoint
open Library
open Ocpp.Connector (TransactionState)

inductive StopReason
  | emergencyStop
  | evDisconnected
  | hardReset
  | local
  | other
  | powerLoss
  | reboot
  | remote
  | softReset
  | unlockCommand
  | deAuthorized
deriving DecidableEq

def StopReason.ofString : String → StopReason
  | "EmergencyStop" => emergencyStop
  | "EVDisconnected" => evDisconnected
  | "HardReset" => hardReset
  | "Local" => .local
  | "PowerLoss" => powerLoss
  | "Reboot" => reboot
  | "Remote" => remote
  | "SoftReset" => softReset
  | "UnlockCommand" => unlockCommand
  | "DeAuthorized" => deAuthorized
  | _ => other

/-- The quantities that `update_meter_reading` leaves out are left out. -/
structure MeterValue where
  timestamp : DateTime
  energyWh : Int32
deriving DecidableEq

structure TransactionData where
  transactionId : Int32
  connectorId : Nat
  idTag : String
  startTime : DateTime
  stopTime : Option DateTime
  meterStart : Int32
  meterStop : Option Int32
  state : TransactionState
  stopReason : Option StopReason
  reservationId : Option Int32
  meterValues : List MeterValue
  maxMeterValues : Nat
deriving DecidableEq

def stateDebug : TransactionState → String
  | .starting => "Starting"
  | .active => "Active"
  | .suspended => "Suspended"
  | .stopping => "Stopping"
  | .stopped => "Stopped"
  | .failed => "Failed"

/-! ## Transactions -/

namespace TransactionData

def new (transactionId : Int32) (connectorId : Nat) (idTag : String) (meterStart : Int32) (now : DateTime) :
    TransactionData where
  transactionId
  connectorId
  idTag
  startTime := now
  stopTime := none
  meterStart
  meterStop := none
  state := .starting
  stopReason := none
  reservationId := none
  meterValues := []
  maxMeterValues := 1000

variable (data : TransactionData)

def addMeterValue (meterValue : MeterValue) : TransactionData :=
  { data with meterValues := pushRecent data.maxMeterValues data.meterValues meterValue }

def latestMeterValue : Option MeterValue :=
  data.meterValues.getLast?

def energyConsumed : Int32 :=
  match data.latestMeterValue with
  | some latest => latest.energyWh - data.meterStart
  | none => 0

def isFinished : Bool :=
  data.state = .stopped || data.state = .failed

def start : Except String TransactionData :=
  if data.state ≠ .starting then .error ("Cannot start transaction in state: " ++ stateDebug data.state)
  else .ok { data with state := .active }

def suspend : Except String TransactionData :=
  if data.state ≠ .active then .error ("Cannot suspend transaction in state: " ++ stateDebug data.state)
  else .ok { data with state := .suspended }

def resume : Except String TransactionData :=
  if data.state ≠ .suspended then .error ("Cannot resume transaction in state: " ++ stateDebug data.state)
  else .ok { data with state := .active }

def stop (reason : String) (now : DateTime) : TransactionData :=
  if data.state = .stopped ∨ data.state = .failed then data
  else
    { data with
      stopTime := some now
      stopReason := some (.ofString reason)
      meterStop := some (match data.latestMeterValue with
        | some latest => latest.energyWh
        | none => data.meterStart)
      state := .stopped }

def fail (reason : String) (now : DateTime) : TransactionData :=
  { data with
    state := .failed
    stopTime := some now
    stopReason := some (.ofString reason) }

def updateMeterReading (energyWh : Int32) (now : DateTime) : TransactionData :=
  data.addMeterValue ⟨now, energyWh⟩

/-- What is called on a transaction that `get_transaction_mut` gives. -/
inductive Mutator
  | start
  | suspend
  | resume
  | stop (reason : String) (now : DateTime)
  | fail (reason : String) (now : DateTime)
  | updateMeterReading (energyWh : Int32) (now : DateTime)

/-- A call that returns an error leaves the transaction as it is. -/
def mutate : Mutator → TransactionData
  | .start => data.start.toOption.getD data
  | .suspend => data.suspend.toOption.getD data
  | .resume => data.resume.toOption.getD data
  | .stop reason now => data.stop reason now
  | .fail reason now => data.fail reason now
  | .updateMeterReading energyWh now => data.updateMeterReading energyWh now

end TransactionData

/-! ## The manager -/

structure TransactionManager where
  transactions : HashMap Nat TransactionData
  history : List TransactionData
  maxHistorySize : Nat
  nextTransactionId : Int32

structure TransactionStatistics where
  activeTransactions : Nat
  totalTransactions : Nat
  completedTransactions : Nat
  failedTransactions : Nat
  totalEnergyWh : Int32
deriving DecidableEq

namespace TransactionManager

def new : TransactionManager where
  transactions := ∅
  history := []
  maxHistorySize := 1000
  nextTransactionId := 1

variable (manager : TransactionManager)

def createTransaction (connectorId : Nat) (idTag : String) (meterStart : Int32) (reservationId : Option Int32)
    (now : DateTime) : Except String Int32 × TransactionManager :=
  if (manager.transactions.lookup connectorId).isSome then
    (.error ("Transaction already active on connector " ++ toString connectorId), manager)
  else
    let transactionId := manager.nextTransactionId
    let transaction := { TransactionData.new transactionId connectorId idTag meterStart now with reservationId }
    (.ok transactionId, { manager with
      transactions := manager.transactions.insert connectorId transaction
      nextTransactionId := manager.nextTransactionId + 1 })

def stopTransaction (connectorId : Nat) (reason : String) (now : DateTime) :
    Option TransactionData × TransactionManager :=
  match manager.transactions.lookup connectorId with
  | none => (none, manager)
  | some transaction =>
      let data := transaction.stop reason now
      (some data, { manager with
        transactions := manager.transactions.erase connectorId
        history := pushRecent manager.maxHistorySize manager.history data })

def mutateTransaction (connectorId : Nat) (mutator : TransactionData.Mutator) : TransactionManager :=
  match manager.transactions.lookup connectorId with
  | none => manager
  | some transaction =>
      { manager with transactions := manager.transactions.insert connectorId (transaction.mutate mutator) }

def statistics : TransactionStatistics where
  activeTransactions := HashMap.size manager.transactions
  totalTransactions := manager.history.length + HashMap.size manager.transactions
  completedTransactions := (manager.history.filter (·.state = .stopped)).length
  failedTransactions := (manager.history.filter (·.state = .failed)).length
  totalEnergyWh := I32.sum (manager.history.map (·.energyConsumed))

inductive Operation
  | createTransaction (connectorId : Nat) (idTag : String) (meterStart : Int32) (reservationId : Option Int32)
      (now : DateTime)
  | stopTransaction (connectorId : Nat) (reason : String) (now : DateTime)
  | getTransactionMut (connectorId : Nat) (mutator : TransactionData.Mutator)

def step (manager : TransactionManager) : Operation → Option TransactionManager
  | .createTransaction connectorId idTag meterStart reservationId now =>
      some (manager.createTransaction connectorId idTag meterStart reservationId now).2
  | .stopTransaction connectorId reason now => some (manager.stopTransaction connectorId reason now).2
  | .getTransactionMut connectorId mutator => some (manager.mutateTransaction connectorId mutator)

/-- The id that the operation gives to a new transaction. -/
def issued (manager : TransactionManager) : Operation → Option Int32
  | .createTransaction connectorId idTag meterStart reservationId now =>
      (manager.createTransaction connectorId idTag meterStart reservationId now).1.toOption
  | _ => none

end TransactionManager

end Ocpp.ChargePoint
