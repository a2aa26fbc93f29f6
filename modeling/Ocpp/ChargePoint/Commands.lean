import Ocpp.ChargePoint.Transactions

/-!
# Inbound requests and queued commands

The handlers of the dispatcher that touch transactions, reservations and availability, the commands
they queue, and the tasks that expire reservations. The consumer runs one command at a time.
-/

namespace Ocpp.ChargePoint
open Library V16j V201

variable (config : Config)

/-! ## Remote starts and stops -/

inductive RequestStatus
  | accepted
  | rejected
  deriving DecidableEq, Repr

structure StatusInfoType where
  reasonCode : String
  additionalInfo : String
  deriving DecidableEq, Repr

def startable : ChargePointStatus → Bool
  | .available | .reserved => true
  | _ => false

def remoteStartTransaction (connectorId : Option Nat) (idTag : String) : Async RequestStatus := do
  let target := connectorId.getD 1
  if target = 0 ∨ target ∉ config.connectors then
    return .rejected
  if startable (← act (.getStatus target)) then
    act (.enqueue (.startTransaction target idTag none none none))
    return .accepted
  return .rejected

structure RequestStartTransactionRequest where
  evseId : Option Int
  remoteStartId : Int
  idToken : IdTokenType
  chargingProfile : Option ChargingProfileType
  groupIdToken : Option IdTokenType
  deriving DecidableEq, Repr

def invalidProfile : StatusInfoType :=
  ⟨"InvalidProfile",
    "RequestStartTransaction.chargingProfile.chargingProfilePurpose must be TxProfile"⟩

def requestStartTransaction (req : RequestStartTransactionRequest) :
    Async (RequestStatus × Option StatusInfoType) := do
  if req.chargingProfile.any (·.chargingProfilePurpose ≠ .txProfile) then
    return (.rejected, some invalidProfile)
  match (connectorOf (req.evseId.getD 1)).filter (· ∈ config.connectors) with
  | none => return (.rejected, none)
  | some connectorId =>
      if startable (← act (.getStatus connectorId)) then
        act (.enqueue (.startTransaction connectorId req.idToken.idToken (some req.remoteStartId)
          req.chargingProfile req.groupIdToken))
        return (.accepted, none)
      return (.rejected, none)

/-- `RemoteStopTransaction`, and `RequestStopTransaction`, whose id is the decimal spelling. -/
def remoteStopTransaction (transactionId : Int) : Async RequestStatus := do
  match ← act (.getActive transactionId) with
  | none => return .rejected
  | some _ =>
      act (.enqueue (.stopTransaction transactionId))
      return .accepted

def triggerTransactionEvent (evseId : Option Int) : Async RequestStatus := do
  act (.enqueue (.v201TriggerTransactionEvent evseId))
  return .accepted

/-! ## Reset and availability -/

inductive DeferralStatus
  | accepted
  | rejected
  | scheduled
  deriving DecidableEq, Repr

def v201ResetStatus : ResetEnumType → Bool → DeferralStatus
  | .immediate, _ => .accepted
  | .onIdle, transactionInProgress => if transactionInProgress then .scheduled else .accepted

def v201ResetResetType : ResetEnumType → ResetType
  | .immediate => .hard
  | .onIdle => .soft

def v201Reset (kind : ResetEnumType) : Async DeferralStatus := do
  let active ← act .readActive
  match v201ResetStatus kind (!active.entries.isEmpty) with
  | .accepted =>
      act (.enqueue (.reset (v201ResetResetType kind)))
      return .accepted
  | .scheduled =>
      act (.armReset (v201ResetResetType kind))
      return .scheduled
  | .rejected => return .rejected

def v16jReset (resetType : ResetType) : Async RequestStatus := do
  act (.enqueue (.reset resetType))
  return .accepted

def changeAvailabilityTargets (evseId : Option Int) : List Nat :=
  match evseId with
  | some id => ((connectorOf id).filter (· ∈ config.connectors)).toList
  | none => config.connectors

def v201ChangeAvailabilityStatus (transactionInProgress : Bool) : DeferralStatus :=
  if transactionInProgress then .scheduled else .accepted

def v201ChangeAvailability (evseId : Option Int) (target : OperationalStatusEnumType) :
    Async DeferralStatus := do
  let targets := changeAvailabilityTargets config evseId
  if targets.isEmpty then
    return .rejected
  let active ← act .readActive
  let transactionInProgress := match evseId with
    | none => !active.entries.isEmpty
    | some _ => active.entries.any fun e => e.2 ∈ targets
  match v201ChangeAvailabilityStatus transactionInProgress with
  | .accepted =>
      targets.forM fun connectorId =>
        act (.enqueue (.v201ApplyAvailability connectorId target none))
      return .accepted
  | .scheduled =>
      act (.armAvailability evseId target)
      return .scheduled
  | .rejected => return .rejected

def operationalStatusToCpStatus : OperationalStatusEnumType → ChargePointStatus
  | .operative => .available
  | .inoperative => .unavailable

def applyV201Availability (connectorId : Nat) (target : OperationalStatusEnumType) : Async Unit := do
  if connectorId ∈ config.connectors then
    act (.setStatus connectorId (operationalStatusToCpStatus target))
    let _ ← (sendStatusNotification connectorId (operationalStatusToCpStatus target)).attempt

/-- The reboot that follows makes CALLs of its own and leaves the shared state alone. -/
def performReset (resetType : ResetType) : Async Unit := do
  act .takeReset
  let reason := match resetType with
    | .soft => Reason.softReset
    | .hard => Reason.hardReset
  let active ← act .listActive
  active.forM fun (transactionId, _) => do
    let _ ← (stopTransaction config transactionId 0 reason).attempt
  act .drainSamplers

/-! ## Reservations -/

def reserve (connectorId : Nat) (idTag : String) : Async Bool := do
  if (← act (.getStatus connectorId)) = .available then
    act (.setReservedFor connectorId (some idTag))
    act (.setStatus connectorId .reserved)
    return true
  return false

def cancelReservation (connectorId : Nat) : Async Unit := do
  act (.setReservedFor connectorId none)
  if (← act (.getStatus connectorId)) = .reserved then
    act (.setStatus connectorId .available)

inductive ReservationStatus
  | accepted
  | faulted
  | occupied
  | rejected
  | unavailable
  deriving DecidableEq, Repr

/-- What a connector that is not available answers a reservation. -/
def reservationRefusal : ChargePointStatus → ReservationStatus
  | .faulted => .faulted
  | .unavailable => .unavailable
  | _ => .occupied

structure ReserveNowRequest where
  connectorId : Int
  expiryDate : DateTime
  idTag : String
  reservationId : Int
  deriving DecidableEq, Repr

/-- `now` is the clock of the station. -/
def v16jReserveNow (now : DateTime) (req : ReserveNowRequest) : Async ReservationStatus := do
  if req.expiryDate ≤ now then
    return .rejected
  match (connectorOf req.connectorId).filter (· ∈ config.connectors) with
  | none => return .rejected
  | some connectorId =>
      let status ← act (.getStatus connectorId)
      if status ≠ .available then
        return reservationRefusal status
      if !(← reserve connectorId req.idTag) then
        return .rejected
      let number ← act (.insertReservation req.reservationId connectorId req.idTag)
      act (.enqueue (.emitConnectorStatus connectorId .reserved))
      act (.armTimer ⟨req.reservationId, connectorId, number⟩)
      return .accepted

structure V201ReserveNowRequest where
  id : Int
  expiryDateTime : String
  evseId : Option Int
  idToken : IdTokenType
  deriving DecidableEq, Repr

def expiredReservation : StatusInfoType :=
  ⟨"ExpiredReservation",
    "ReserveNow.expiryDateTime is at or before now; the reservation would auto-free instantly"⟩

def stationLevel : StatusInfoType :=
  ⟨"StationLevel", "ReserveNow without an evseId reserves the whole Charging Station; the " ++
    "simulator only reserves a specific EVSE"⟩

def unknownEvse : StatusInfoType :=
  ⟨"UnknownEvse", "ReserveNow.evseId must name an EVSE the station exposes (2.0.1 evse ids are 1-based)"⟩

def unlistedEvse : StatusInfoType :=
  ⟨"UnknownEvse", "ReserveNow.evseId is structurally valid but names no EVSE on this station"⟩

def reserveFailed : StatusInfoType :=
  ⟨"ReserveFailed", "the targeted EVSE could not be reserved (it was taken concurrently)"⟩

/-- An expiry that is not RFC 3339 text never passes and arms no timer. The state of the connector is
read before the request is judged. -/
def v201ReserveNow (rfc : Rfc3339) (now : DateTime) (req : V201ReserveNowRequest) :
    Async (ReservationStatus × Option StatusInfoType) := do
  let expiry := rfc.parse req.expiryDateTime
  match (req.evseId.bind connectorOf).filter (· ∈ config.connectors) with
  | none =>
      if expiry.any (· ≤ now) then return (.rejected, some expiredReservation)
      match req.evseId with
      | none => return (.rejected, some stationLevel)
      | some evseId =>
          return (.rejected, some (if evseId < 1 then unknownEvse else unlistedEvse))
  | some connectorId =>
      let status ← act (.getStatus connectorId)
      if expiry.any (· ≤ now) then return (.rejected, some expiredReservation)
      if status ≠ .available then
        return (reservationRefusal status, none)
      if !(← reserve connectorId req.idToken.idToken) then
        return (.rejected, some reserveFailed)
      let number ← act (.insertReservation req.id connectorId req.idToken.idToken)
      act (.enqueue (.emitConnectorStatus connectorId .reserved))
      onlyIf expiry.isSome (act (.armTimer ⟨req.id, connectorId, number⟩))
      return (.accepted, none)

/-- The connector is freed of its reservation, and the change of its status is queued. -/
def freeReserved (connectorId : Nat) : Async Unit := do
  if connectorId ∈ config.connectors then
    let wasReserved := (← act (.getStatus connectorId)) = .reserved
    cancelReservation connectorId
    if wasReserved then
      act (.enqueue (.emitConnectorStatus connectorId .available))

def reportReservation (reservationId : Int) (status : ReservationUpdateStatusEnumType) : Async Unit :=
  match config.protocolVersion with
  | .v16j => pure ()
  | .v201 => act (.enqueue (.v201ReservationStatusUpdate reservationId status))

/-- `CancelReservation` in both dialects; only 2.0.1 reports the removal. -/
def cancelReservationRequest (reservationId : Int) : Async RequestStatus := do
  match ← act (.removeReservation reservationId) with
  | none => return .rejected
  | some connectorId =>
      act (.removeTimers [reservationId])
      freeReserved config connectorId
      reportReservation config reservationId .removed
      return .accepted

/-- The task that `arm_reservation_expiry` spawns, from when it wakes up. -/
def expireReservation (timer : ReservationTimer) : Async Unit := do
  if ← act (.expireReservation timer.reservationId timer.connectorId) then
    freeReserved config timer.connectorId
    reportReservation config timer.reservationId .expired

/-! ## Charging profiles -/

def noOngoingTransaction : StatusInfoType :=
  ⟨"NoTransaction", "SetChargingProfile carrying a TxProfile requires an ongoing transaction on the " ++
    "targeted EVSE"⟩

/-- Of `SetChargingProfile`, the part that reaches the transaction profiles. -/
def v201SetChargingProfile (evseId : Int) (profile : ChargingProfileType) :
    Async (RequestStatus × Option StatusInfoType) := do
  let active ← act .readActive
  let hasActiveTransaction := 1 ≤ evseId ∧ active.entries.any fun e => (e.2 : Int) = evseId
  if profile.chargingProfilePurpose ≠ .txProfile then
    return (.accepted, none)
  if hasActiveTransaction then
    act (.installTxProfile evseId profile)
    return (.accepted, none)
  return (.rejected, some noOngoingTransaction)

structure ClearChargingProfileType where
  evseId : Option Int
  chargingProfilePurpose : Option ChargingProfilePurposeEnumType
  stackLevel : Option Int
  deriving DecidableEq, Repr

def v201ClearChargingProfileMatches (chargingProfileId : Option Int)
    (criteria : Option ClearChargingProfileType) (installed : List (Int × ChargingProfileType)) :
    List (Int × ChargingProfileType) :=
  installed.filter fun (evseId, profile) =>
    match chargingProfileId, criteria with
    | some id, _ => profile.id = id
    | none, some c => c.evseId.all (· = evseId) ∧
        c.chargingProfilePurpose.all (· = profile.chargingProfilePurpose) ∧
        c.stackLevel.all (· = profile.stackLevel)
    | none, none => true

/-- Of `ClearChargingProfile`, the part that reaches the transaction profiles. -/
def v201ClearChargingProfile (chargingProfileId : Option Int)
    (criteria : Option ClearChargingProfileType) : Async Unit := do
  let installed ← act .readTxProfiles
  (v201ClearChargingProfileMatches chargingProfileId criteria installed).forM fun (evseId, profile) =>
    if profile.chargingProfilePurpose = .txProfile then act (.clearTxProfile evseId) else pure ()

/-! ## The consumer -/

def RemoteCommand.run : RemoteCommand → Async Unit
  | reset resetType => performReset config resetType
  | startTransaction connectorId idTag remoteStartId chargingProfile groupIdToken => do
      let _ ← startTransactionWithRemoteStartId config connectorId idTag 0 remoteStartId
        chargingProfile groupIdToken
  | stopTransaction transactionId => ChargePoint.stopTransaction config transactionId 0 .remote
  | v201TriggerTransactionEvent evseId => triggerV201TransactionEvent config evseId
  | v201ReservationStatusUpdate reservationId status => do
      let _ ← call (.reservationStatusUpdate reservationId status)
  | emitConnectorStatus connectorId status => sendStatusNotification connectorId status
  | v201ApplyAvailability connectorId target _ => applyV201Availability config connectorId target

end Ocpp.ChargePoint
