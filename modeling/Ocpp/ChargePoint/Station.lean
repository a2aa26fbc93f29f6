import Ocpp.Library.HashMap
import Ocpp.Library.Pool
import Ocpp.Types.Error
import Ocpp.Types.Transaction

/-!
# The shared state of a charge point

The maps, slots and connectors that the tasks of `ChargePoint` share, and the atomic operations they
perform on them: one access under a lock, one atomic instruction, or one CALL. A CALL is performed when
its frame goes out, and its answer is decided then; the task that made it goes on at some later step.
-/

namespace Ocpp.ChargePoint
open Library V16j V201

/-- The connectors of a station never change; their ids are listed in ascending order. -/
structure Config where
  protocolVersion : OcppVersion
  connectors : List Nat
  txOpensOnCablePlug : Bool
  ascending : connectors.Pairwise (· < ·)
  positive : ∀ connectorId ∈ connectors, 0 < connectorId

/-! ## CALLs -/

inductive ReservationUpdateStatusEnumType
  | expired
  | removed
  deriving DecidableEq, Repr

/-- A status notification is made from the status of the connector in either dialect. -/
inductive Request
  | statusNotification (connectorId : Nat) (status : ChargePointStatus)
  | startTransaction (connectorId : Nat) (idTag : String) (meterStart : Int)
  | stopTransaction (transactionId meterStop : Int) (reason : Reason)
  | transactionEvent (event : TransactionEventRequest)
  | reservationStatusUpdate (reservationId : Int) (status : ReservationUpdateStatusEnumType)
  deriving DecidableEq, Repr

/-- What the station reads of a CALLRESULT; each request reads its own part. -/
structure Response where
  transactionId : Int
  idTagStatus : AuthorizationStatus
  idTokenStatus : Option AuthorizationStatusEnumType
  deriving DecidableEq, Repr

/-- A CALL is refused before it goes out, fails after it went out (lost, timed out, CALLERROR), or is
answered. -/
inductive Answer
  | refused (error : OcppError)
  | failed (error : OcppError)
  | replied (response : Response)

def Answer.outcome : Answer → Except OcppError Response
  | refused error | failed error => .error error
  | replied response => .ok response

def Answer.Fails : Answer → Prop
  | refused _ | failed _ => True
  | replied _ => False

instance : DecidablePred Answer.Fails
  | .refused _ | .failed _ => isTrue trivial
  | .replied _ => isFalse id

def Answer.Sent : Answer → Prop
  | refused _ => False
  | failed _ | replied _ => True

instance : DecidablePred Answer.Sent
  | .refused _ => isFalse id
  | .failed _ | .replied _ => isTrue trivial

/-! ## State -/

/-- The part of a session that its map holds by value. -/
structure V201Session where
  idTag : String
  plugInitiated : Bool
  groupIdToken : Option IdTokenType
  deriving DecidableEq, Repr

/-- What the shared pointers of a session point to; tasks keep them after the session is removed. -/
structure SessionCell where
  nextSeqNo : Int
  authorized : Bool
  chargingState : ChargingStateEnumType
  locked : Bool
  deriving DecidableEq, Repr

/-- The armed availability change; `number` counts the requests answered Scheduled. -/
structure PendingAvailability where
  evseId : Option Int
  target : OperationalStatusEnumType
  number : Nat
  deriving DecidableEq, Repr

def PendingAvailability.Covers (pending : PendingAvailability) (connectorId : Nat) : Prop :=
  ∀ evse ∈ pending.evseId, evse = connectorId

/-- An availability command carries the number of the scheduled request it carries out, if any. -/
inductive RemoteCommand
  | reset (resetType : ResetType)
  | startTransaction (connectorId : Nat) (idTag : String) (remoteStartId : Option Int)
      (chargingProfile : Option ChargingProfileType) (groupIdToken : Option IdTokenType)
  | stopTransaction (transactionId : Int)
  | v201TriggerTransactionEvent (evseId : Option Int)
  | v201ReservationStatusUpdate (reservationId : Int) (status : ReservationUpdateStatusEnumType)
  | emitConnectorStatus (connectorId : Nat) (status : ChargePointStatus)
  | v201ApplyAvailability (connectorId : Nat) (target : OperationalStatusEnumType)
      (scheduled : Option Nat)
  deriving DecidableEq, Repr

/-- A sleeping expiry task; `reservation` is the number of the reservation it was armed for. -/
structure ReservationTimer where
  reservationId : Int
  connectorId : Nat
  reservation : Nat
  deriving DecidableEq, Repr

structure Station where
  status : Nat → ChargePointStatus
  reservedFor : Nat → Option String
  activeTransactions : HashMap Int Nat
  nextV201TransactionId : Int
  v201Sessions : HashMap Int V201Session
  cells : Int → SessionCell
  v201TxProfiles : HashMap Int ChargingProfileType
  reservations : HashMap Int Nat
  expiryTimers : HashMap Int Nat
  timers : HashMap Nat ReservationTimer
  meterSamplers : HashMap Int Nat
  pendingV201Reset : Option ResetType
  pendingV201Availability : Option PendingAvailability
  commands : List RemoteCommand
  -- history, which no program reads
  calls : List (Request × Answer)
  scheduled : Nat
  due : Nat → Option Nat
  reserved : Nat
  reservationOf : Int → Nat
  reservationTag : Int → String
  timersArmed : Nat
  everAuthorized : Int → Bool

def Station.new : Station where
  status _ := .available
  reservedFor _ := none
  activeTransactions := ∅
  nextV201TransactionId := 1
  v201Sessions := ∅
  cells _ := ⟨0, false, .idle, false⟩
  v201TxProfiles := ∅
  reservations := ∅
  expiryTimers := ∅
  timers := ∅
  meterSamplers := ∅
  pendingV201Reset := none
  pendingV201Availability := none
  commands := []
  calls := []
  scheduled := 0
  due _ := none
  reserved := 0
  reservationOf _ := 0
  reservationTag _ := ""
  timersArmed := 0
  everAuthorized _ := false

/-! ## Operations -/

inductive Op
  -- `active_transactions`
  | findActive (evseId : Int)
  | getActive (transactionId : Int)
  | readActive
  | listActive
  | insertActive (transactionId : Int) (connectorId : Nat)
  | removeActive (transactionId : Int)
  -- `v201_sessions`
  | getSession (transactionId : Int)
  | insertSession (transactionId : Int) (session : V201Session) (cell : SessionCell)
  | removeSession (transactionId : Int)
  | setIdentity (transactionId : Int) (idTag : String) (groupIdToken : Option IdTokenType)
  | claimListedSeqNo (transactionId : Int)
  | deauthorizeSessions (idTag : String)
  -- the shared pointers of a session
  | claimSeqNo (transactionId : Int)
  | lockState (transactionId : Int)
  | setState (transactionId : Int) (state : ChargingStateEnumType)
  | unlockState (transactionId : Int)
  | authorize (transactionId : Int)
  | mintTransactionId
  -- the client
  | call (request : Request)
  -- connectors
  | getStatus (connectorId : Nat)
  | setStatus (connectorId : Nat) (status : ChargePointStatus)
  | setReservedFor (connectorId : Nat) (idTag : Option String)
  -- profiles
  | readTxProfiles
  | installTxProfile (evseId : Int) (profile : ChargingProfileType)
  | clearTxProfile (evseId : Int)
  -- reservations and their timers
  | takeReservationsOn (connectorId : Nat)
  | insertReservation (reservationId : Int) (connectorId : Nat) (idTag : String)
  | removeReservation (reservationId : Int)
  | expireReservation (reservationId : Int) (connectorId : Nat)
  | removeTimers (reservationIds : List Int)
  | armTimer (timer : ReservationTimer)
  -- samplers
  | registerSampler (transactionId : Int) (connectorId : Nat)
  | stopSampler (transactionId : Int)
  | drainSamplers
  -- deferred commands
  | armReset (resetType : ResetType)
  | takeReset
  | armAvailability (evseId : Option Int) (target : OperationalStatusEnumType)
  | takeIfIdle
  | enqueue (command : RemoteCommand)

@[reducible] def Op.Result : Op → Type
  | findActive _ => Option Int
  | getActive _ | removeReservation _ => Option Nat
  | readActive => HashMap Int Nat
  | listActive => List (Int × Nat)
  | getSession _ | removeSession _ => Option V201Session
  | claimListedSeqNo _ => Option Int
  | claimSeqNo _ | mintTransactionId => Int
  | lockState _ => ChargingStateEnumType
  | call _ => Except OcppError Response
  | getStatus _ => ChargePointStatus
  | readTxProfiles => List (Int × ChargingProfileType)
  | takeReservationsOn _ => List Int
  | insertReservation .. => Nat
  | expireReservation .. => Bool
  | deauthorizeSessions _ => Nat
  | takeIfIdle => Option ResetType × Option PendingAvailability
  | _ => Unit

/-- What the environment decides: which entry of a map an iteration meets first, in which order it meets
all of them, and how a CALL is answered. -/
inductive Choice
  | none
  | pick (transactionId : Option Int)
  | order (entries : List (Int × Nat))
  | answer (answer : Answer)

/-- `fetch_add` of an `AtomicI32` wraps around. -/
def wrappingSucc (n : Int) : Int :=
  (BitVec.ofInt 32 (n + 1)).toInt

namespace Station

variable (s : Station)

def insertActive (transactionId : Int) (connectorId : Nat) : Station :=
  { s with activeTransactions := s.activeTransactions.insert transactionId connectorId }

def removeActive (transactionId : Int) : Station :=
  { s with activeTransactions := s.activeTransactions.erase transactionId }

def insertSession (transactionId : Int) (session : V201Session) (cell : SessionCell) : Station :=
  { s with
    v201Sessions := s.v201Sessions.insert transactionId session
    cells := Function.update s.cells transactionId cell
    everAuthorized := Function.update s.everAuthorized transactionId cell.authorized }

def removeSession (transactionId : Int) : Station :=
  { s with v201Sessions := s.v201Sessions.erase transactionId }

def setIdentity (transactionId : Int) (idTag : String) (groupIdToken : Option IdTokenType) : Station :=
  match s.v201Sessions.lookup transactionId with
  | some session =>
      let identified := { session with idTag, groupIdToken }
      { s with v201Sessions := s.v201Sessions.insert transactionId identified }
  | none => s

def setCell (transactionId : Int) (cell : SessionCell) : Station :=
  { s with cells := Function.update s.cells transactionId cell }

def claim (transactionId : Int) : Station :=
  s.setCell transactionId
    { s.cells transactionId with nextSeqNo := wrappingSucc (s.cells transactionId).nextSeqNo }

def lockState (transactionId : Int) : Station :=
  s.setCell transactionId { s.cells transactionId with locked := true }

def setState (transactionId : Int) (state : ChargingStateEnumType) : Station :=
  s.setCell transactionId { s.cells transactionId with chargingState := state }

def unlockState (transactionId : Int) : Station :=
  s.setCell transactionId { s.cells transactionId with locked := false }

def authorize (transactionId : Int) : Station :=
  { s with
    cells := Function.update s.cells transactionId { s.cells transactionId with authorized := true }
    everAuthorized := Function.update s.everAuthorized transactionId true }

def deauthorize (idTag : String) : Station :=
  { s with cells := fun transactionId =>
      if (s.v201Sessions.lookup transactionId).any (·.idTag = idTag) then
        { s.cells transactionId with authorized := false }
      else s.cells transactionId }

def mintTransactionId : Station :=
  { s with nextV201TransactionId := wrappingSucc s.nextV201TransactionId }

def called (request : Request) (answer : Answer) : Station :=
  { s with calls := s.calls ++ [(request, answer)] }

def setStatus (connectorId : Nat) (status : ChargePointStatus) : Station :=
  { s with status := Function.update s.status connectorId status }

def setReservedFor (connectorId : Nat) (idTag : Option String) : Station :=
  { s with reservedFor := Function.update s.reservedFor connectorId idTag }

def installTxProfile (evseId : Int) (profile : ChargingProfileType) : Station :=
  { s with v201TxProfiles := s.v201TxProfiles.insert evseId profile }

def clearTxProfile (evseId : Int) : Station :=
  { s with v201TxProfiles := s.v201TxProfiles.erase evseId }

def reservationsOn (connectorId : Nat) : List Int :=
  (s.reservations.entries.filter fun e => e.2 = connectorId).map (·.1)

def dropReservationsOn (connectorId : Nat) : Station :=
  { s with reservations := s.reservations.retain fun _ held => held ≠ connectorId }

def insertReservation (reservationId : Int) (connectorId : Nat) (idTag : String) : Station :=
  { s with
    reservations := s.reservations.insert reservationId connectorId
    reserved := s.reserved + 1
    reservationOf := Function.update s.reservationOf reservationId s.reserved
    reservationTag := Function.update s.reservationTag reservationId idTag }

def removeReservation (reservationId : Int) : Station :=
  { s with reservations := s.reservations.erase reservationId }

/-- Removing a handle from the timer map aborts its task. -/
def removeTimer (s : Station) (reservationId : Int) : Station :=
  match s.expiryTimers.lookup reservationId with
  | some handle =>
      { s with expiryTimers := s.expiryTimers.erase reservationId, timers := s.timers.erase handle }
  | none => s

def removeTimers (reservationIds : List Int) : Station :=
  reservationIds.foldl removeTimer s

/-- Arming prunes the handles of finished tasks and aborts the task it replaces. -/
def armTimer (timer : ReservationTimer) : Station :=
  let handles := s.expiryTimers.retain fun _ handle => (s.timers.lookup handle).isSome
  let aborted := match handles.lookup timer.reservationId with
    | some old => s.timers.erase old
    | none => s.timers
  { s with
    expiryTimers := handles.insert timer.reservationId s.timersArmed
    timers := aborted.insert s.timersArmed timer
    timersArmed := s.timersArmed + 1 }

def registerSampler (transactionId : Int) (connectorId : Nat) : Station :=
  { s with meterSamplers := s.meterSamplers.insert transactionId connectorId }

def stopSampler (transactionId : Int) : Station :=
  { s with meterSamplers := s.meterSamplers.erase transactionId }

def armReset (resetType : ResetType) : Station :=
  { s with pendingV201Reset := some resetType }

def armAvailability (evseId : Option Int) (target : OperationalStatusEnumType) : Station :=
  { s with
    pendingV201Availability := some ⟨evseId, target, s.scheduled⟩
    scheduled := s.scheduled + 1
    due := fun connectorId =>
      if evseId.all (· = (connectorId : Int)) then some s.scheduled else s.due connectorId }

def idle : Bool :=
  s.activeTransactions.entries.isEmpty

def takeSlots : Station :=
  { s with pendingV201Reset := none, pendingV201Availability := none }

/-- A queued availability change settles what was due on its connector: its own request, or any earlier
one if it was accepted at once. -/
def enqueue (command : RemoteCommand) : Station :=
  { s with
    commands := s.commands ++ [command]
    due := match command with
      | .v201ApplyAvailability connectorId _ scheduled =>
          if scheduled.isNone ∨ s.due connectorId = scheduled then
            Function.update s.due connectorId none
          else s.due
      | _ => s.due }

def orders (entries : List (Int × Nat)) (map : HashMap Int Nat) : Bool :=
  entries.isPerm (map.entries.map fun e => (e.1, e.2))

end Station

def exec (s : Station) : (op : Op) → Choice → Option (op.Result × Station)
  | .findActive evseId, .pick (some tid) =>
      if (s.activeTransactions.lookup tid).any fun c : Nat => evseId = c then some (some tid, s)
      else none
  | .findActive evseId, .pick none =>
      if s.activeTransactions.entries.all fun e => evseId ≠ e.2 then some (none, s) else none
  | .findActive _, _ => none
  | .getActive tid, _ => some (s.activeTransactions.lookup tid, s)
  | .readActive, _ => some (s.activeTransactions, s)
  | .listActive, .order entries =>
      if Station.orders entries s.activeTransactions then some (entries, s) else none
  | .listActive, _ => none
  | .insertActive tid connectorId, _ => some ((), s.insertActive tid connectorId)
  | .removeActive tid, _ => some ((), s.removeActive tid)
  | .getSession tid, _ => some (s.v201Sessions.lookup tid, s)
  | .insertSession tid session cell, _ => some ((), s.insertSession tid session cell)
  | .removeSession tid, _ => some (s.v201Sessions.lookup tid, s.removeSession tid)
  | .setIdentity tid idTag groupIdToken, _ => some ((), s.setIdentity tid idTag groupIdToken)
  | .claimListedSeqNo tid, _ =>
      some (if (s.v201Sessions.lookup tid).isSome then (some (s.cells tid).nextSeqNo, s.claim tid)
        else (none, s))
  | .deauthorizeSessions idTag, _ =>
      some ((s.v201Sessions.entries.filter fun e => e.2.idTag = idTag).length, s.deauthorize idTag)
  | .claimSeqNo tid, _ => some ((s.cells tid).nextSeqNo, s.claim tid)
  | .lockState tid, _ =>
      if (s.cells tid).locked then none else some ((s.cells tid).chargingState, s.lockState tid)
  | .setState tid state, _ => some ((), s.setState tid state)
  | .unlockState tid, _ => some ((), s.unlockState tid)
  | .authorize tid, _ => some ((), s.authorize tid)
  | .mintTransactionId, _ => some (s.nextV201TransactionId, s.mintTransactionId)
  | .call request, .answer answer => some (answer.outcome, s.called request answer)
  | .call _, _ => none
  | .getStatus connectorId, _ => some (s.status connectorId, s)
  | .setStatus connectorId status, _ => some ((), s.setStatus connectorId status)
  | .setReservedFor connectorId idTag, _ => some ((), s.setReservedFor connectorId idTag)
  | .readTxProfiles, _ => some (s.v201TxProfiles.entries.map fun e => (e.1, e.2), s)
  | .installTxProfile evseId profile, _ => some ((), s.installTxProfile evseId profile)
  | .clearTxProfile evseId, _ => some ((), s.clearTxProfile evseId)
  | .takeReservationsOn connectorId, _ =>
      some (s.reservationsOn connectorId, s.dropReservationsOn connectorId)
  | .insertReservation id connectorId idTag, _ =>
      some (s.reserved, s.insertReservation id connectorId idTag)
  | .removeReservation id, _ => some (s.reservations.lookup id, s.removeReservation id)
  | .expireReservation id connectorId, _ =>
      some (if s.reservations.lookup id = some connectorId then (true, s.removeReservation id)
        else (false, s))
  | .removeTimers ids, _ => some ((), s.removeTimers ids)
  | .armTimer timer, _ => some ((), s.armTimer timer)
  | .registerSampler tid connectorId, _ => some ((), s.registerSampler tid connectorId)
  | .stopSampler tid, _ => some ((), s.stopSampler tid)
  | .drainSamplers, _ => some ((), { s with meterSamplers := ∅ })
  | .armReset resetType, _ => some ((), s.armReset resetType)
  | .takeReset, _ => some ((), { s with pendingV201Reset := none })
  | .armAvailability evseId target, _ => some ((), s.armAvailability evseId target)
  | .takeIfIdle, _ =>
      some (if s.idle then ((s.pendingV201Reset, s.pendingV201Availability), s.takeSlots)
        else ((none, none), s))
  | .enqueue command, _ => some ((), s.enqueue command)

abbrev Async := Program Op.Result OcppError

def act (op : Op) : Async op.Result :=
  .perform op .ret

end Ocpp.ChargePoint
