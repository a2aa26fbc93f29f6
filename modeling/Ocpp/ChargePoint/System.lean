import Ocpp.ChargePoint.Commands

/-!
# The running charge point

A charge point as a pool of tasks over its shared state. Task 0 is the consumer of the command queue;
any other task runs a call of the host, an inbound request, an expiry timer or a tick of a sampler.
-/

namespace Ocpp.ChargePoint
open Library V16j V201

inductive Call
  | startTransaction (connectorId : Nat) (idTag : String) (meterStart : Int)
  | stopTransaction (transactionId meterStop : Int) (reason : Reason)
  | plugInCable (evseId : Int)
  | transitionChargingState (evseId : Int) (newState : ChargingStateEnumType)
  | deauthorize (idTag : String)
  | samplerTick (transactionId : Int) (connectorId : Nat)
  | remoteStartTransaction (connectorId : Option Nat) (idTag : String)
  | requestStartTransaction (req : RequestStartTransactionRequest)
  | remoteStopTransaction (transactionId : Int)
  | triggerTransactionEvent (evseId : Option Int)
  | v16jReset (resetType : ResetType)
  | v201Reset (kind : ResetEnumType)
  | v201ChangeAvailability (evseId : Option Int) (target : OperationalStatusEnumType)
  | v16jReserveNow (now : DateTime) (req : ReserveNowRequest)
  | v201ReserveNow (now : DateTime) (req : V201ReserveNowRequest)
  | cancelReservation (reservationId : Int)
  | expire (handle : Nat) (timer : ReservationTimer)
  | v201SetChargingProfile (evseId : Int) (profile : ChargingProfileType)
  | v201ClearChargingProfile (chargingProfileId : Option Int)
      (criteria : Option ClearChargingProfileType)
  | command (queued : RemoteCommand)

variable (config : Config) (rfc : Rfc3339)

/-- The dialect a call belongs to, if it belongs to one. -/
def Call.version : Call → Option OcppVersion
  | remoteStartTransaction .. | v16jReset _ | v16jReserveNow .. => some .v16j
  | requestStartTransaction _ | triggerTransactionEvent _ | v201Reset _ | v201ChangeAvailability ..
  | v201ReserveNow .. | v201SetChargingProfile .. | v201ClearChargingProfile .. | samplerTick .. =>
      some .v201
  | _ => none

/-- What a call runs, without its result. -/
def Call.run : Call → Async Unit
  | startTransaction connectorId idTag meterStart => do
      let _ ← ChargePoint.startTransaction config connectorId idTag meterStart
  | stopTransaction transactionId meterStop reason =>
      ChargePoint.stopTransaction config transactionId meterStop reason
  | plugInCable evseId => do let _ ← ChargePoint.plugInCable config evseId
  | transitionChargingState evseId newState => do
      let _ ← ChargePoint.transitionChargingState config evseId newState
  | deauthorize idTag => do let _ ← act (.deauthorizeSessions idTag)
  | samplerTick transactionId connectorId => v201MeterSamplerTick config transactionId connectorId
  | remoteStartTransaction connectorId idTag => do
      let _ ← ChargePoint.remoteStartTransaction config connectorId idTag
  | requestStartTransaction req => do let _ ← ChargePoint.requestStartTransaction config req
  | remoteStopTransaction transactionId => do
      let _ ← ChargePoint.remoteStopTransaction transactionId
  | triggerTransactionEvent evseId => do let _ ← ChargePoint.triggerTransactionEvent evseId
  | v16jReset resetType => do let _ ← ChargePoint.v16jReset resetType
  | v201Reset kind => do let _ ← ChargePoint.v201Reset kind
  | v201ChangeAvailability evseId target => do
      let _ ← ChargePoint.v201ChangeAvailability config evseId target
  | v16jReserveNow now req => do let _ ← ChargePoint.v16jReserveNow config now req
  | v201ReserveNow now req => do let _ ← ChargePoint.v201ReserveNow config rfc now req
  | cancelReservation reservationId => do let _ ← cancelReservationRequest config reservationId
  | expire _ timer => expireReservation config timer
  | v201SetChargingProfile evseId profile => do
      let _ ← ChargePoint.v201SetChargingProfile evseId profile
  | v201ClearChargingProfile chargingProfileId criteria =>
      ChargePoint.v201ClearChargingProfile chargingProfileId criteria
  | command queued => queued.run config

/-- Whether a task may start a call, and what starting it changes: the consumer takes the next command,
a timer that wakes up is no longer pending, and only a registered sampler ticks. -/
def Call.start (s : Station) (task : Nat) (call : Call) : Option (Async Unit × Station) :=
  if call.version.any (· ≠ config.protocolVersion) then none
  else
    match call with
    | command queued =>
        if task = 0 ∧ s.commands.head? = some queued then
          some (call.run config rfc, { s with commands := s.commands.tail })
        else none
    | expire handle timer =>
        if task ≠ 0 ∧ s.timers.lookup handle = some timer then
          some (call.run config rfc, { s with timers := s.timers.erase handle })
        else none
    | samplerTick transactionId connectorId =>
        if task ≠ 0 ∧ s.meterSamplers.lookup transactionId = some connectorId then
          some (call.run config rfc, s)
        else none
    | _ => if task ≠ 0 then some (call.run config rfc, s) else none

/-- The tasks that can be aborted while they run. -/
def Call.droppable : Call → Bool
  | samplerTick .. | expire .. => true
  | _ => false

def starter : Starter Op.Result OcppError Station Call where
  start := Call.start config rfc
  droppable := Call.droppable

abbrev System := Pool Op.Result OcppError Station Call
abbrev Action := PoolAction Call Choice

def System.new : System :=
  ⟨Station.new, fun _ => none⟩

def System.step (system : System) (action : Action) : Option System :=
  Pool.step exec (starter config rfc) system action

/-! ## Runs -/

def drive (task : Nat) (choices : List Choice) : List Action :=
  choices.map (.advance task ·)

def answered (transactionId : Int) : Choice :=
  .answer (.replied ⟨transactionId, .accepted, none⟩)

def lost : Choice :=
  .answer (.failed (.timeout "CALL"))

/-- A station with two connectors on which a plugged cable opens a transaction. -/
def simulator (protocolVersion : OcppVersion) : Config :=
  ⟨protocolVersion, [1, 2], true, by decide, by decide⟩

def startSession (task connectorId : Nat) : List Action :=
  .spawn task (.startTransaction connectorId "TAG" 0) ::
    drive task ([.pick none, answered 0, .none, answered 0] ++ List.replicate 4 .none ++
      [answered 0, .none])

def noDates : Rfc3339 :=
  ⟨fun _ => none, fun _ => ""⟩

end Ocpp.ChargePoint
