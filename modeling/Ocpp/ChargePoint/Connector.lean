import Mathlib.Data.List.Induction
import Ocpp.ChargePoint.Connectors

/-!
# A connector by itself

`connector.rs` in full: a connector that keeps its own transaction. Its status, the state of the cable, the
transaction and the reservation are separate cells, and each operation writes some of them.
-/

namespace Ocpp.Connector
open V16j ChargePoint

inductive TransactionState
  | starting
  | active
  | suspended
  | stopping
  | stopped
  | failed
  deriving DecidableEq, Repr

/-- The times, the stop reason and the meter values are read by no operation of a connector. -/
structure Transaction where
  transactionId : Int
  connectorId : Nat
  idTag : String
  meterStart : Int
  state : TransactionState
  deriving DecidableEq, Repr

inductive ChargePointError
  | authorizationFailed (message : String)
  | invalidOperation (message : String)
  deriving DecidableEq, Repr

def Transaction.new (transactionId : Int) (connectorId : Nat) (idTag : String) (meterStart : Int) :
    Except ChargePointError Transaction :=
  .ok ⟨transactionId, connectorId, idTag, meterStart, .starting⟩

def Transaction.stop (transaction : Transaction) : Except ChargePointError Transaction :=
  if transaction.state = .stopped ∨ transaction.state = .failed then .ok transaction
  else .ok { transaction with state := .stopped }

inductive ConnectorEvent
  | pluggedIn
  | unplugged
  | authorized (idTag : String)
  | authorizationFailed (idTag reason : String)
  | chargingStarted
  | chargingStoppedByEV
  | chargingStoppedByEVSE
  | chargingResumed
  | transactionFinished
  | faultOccurred (errorCode : ChargePointErrorCode) (info : Option String)
  | faultCleared
  | reserved (idTag : String)
  | reservationCancelled
  deriving DecidableEq, Repr

structure State where
  connectorId : Nat
  status : ChargePointStatus
  physicalState : ConnectorPhysicalState
  errorCode : ChargePointErrorCode
  errorInfo : Option String
  currentTransaction : Option Transaction
  reservedFor : Option String
  events : List ConnectorEvent
  deriving DecidableEq, Repr

def new (connectorId : Nat) : State where
  connectorId
  status := .available
  physicalState := .unplugged
  errorCode := .noError
  errorInfo := none
  currentTransaction := none
  reservedFor := none
  events := []

def statusDebug : ChargePointStatus → String
  | .available => "Available"
  | .preparing => "Preparing"
  | .charging => "Charging"
  | .suspendedEV => "SuspendedEV"
  | .suspendedEVSE => "SuspendedEVSE"
  | .finishing => "Finishing"
  | .reserved => "Reserved"
  | .unavailable => "Unavailable"
  | .faulted => "Faulted"

/-! ## Operations -/

/-- An operation that fails has still written what it wrote before. -/
abbrev Outcome := Except ChargePointError Unit × State

namespace State

variable (c : State)

def sendEvent (event : ConnectorEvent) : State :=
  { c with events := c.events ++ [event] }

def setStatus (status : ChargePointStatus) : State :=
  { c with status }

/-- The transaction is taken from the connector before it is stopped. -/
def takeTransaction (rest : State → Outcome) (stopped : State → Outcome) : Outcome :=
  match c.currentTransaction with
  | none => rest c
  | some transaction =>
      let taken := { c with currentTransaction := none }
      match transaction.stop with
      | .error error => (.error error, taken)
      | .ok _ => stopped taken

def plugIn : Outcome :=
  let plugged := { c with physicalState := .plugged }
  match c.status with
  | .available | .reserved => (.ok (), (plugged.setStatus .preparing).sendEvent .pluggedIn)
  | .unavailable | .faulted => (.ok (), plugged.sendEvent .pluggedIn)
  | _ => (.ok (), plugged)

def plugOut : Outcome :=
  let unplugged := { c with physicalState := .unplugged }
  match c.status with
  | .preparing => (.ok (), (unplugged.setStatus .available).sendEvent .unplugged)
  | .finishing =>
      (.ok (), { (unplugged.setStatus .available).sendEvent .unplugged with currentTransaction := none })
  | .charging | .suspendedEV | .suspendedEVSE =>
      let free := fun c : State => (.ok (), (c.setStatus .available).sendEvent .unplugged)
      unplugged.takeTransaction free free
  | .available | .reserved | .unavailable | .faulted => (.ok (), unplugged.sendEvent .unplugged)

/-- The id is read from the clock and the meter from the last reading. -/
def startTransaction (idTag : String) (transactionId meterStart : Int) : Outcome :=
  if c.physicalState = .unplugged then
    (.error (.invalidOperation "Cannot start transaction: cable not plugged"), c)
  else if c.currentTransaction.isSome then
    (.error (.invalidOperation "Cannot start transaction: another transaction is active"), c)
  else if c.reservedFor.any (· ≠ idTag) then
    (.error (.authorizationFailed "Connector reserved for different user"),
      c.sendEvent (.authorizationFailed idTag "Reserved for different user"))
  else
    match c.status with
    | .preparing =>
        match Transaction.new transactionId c.connectorId idTag meterStart with
        | .error error => (.error error, c)
        | .ok transaction =>
            let locked := { c with currentTransaction := some transaction, physicalState := .pluggedAndLocked }
            let charging := ((locked.setStatus .charging).sendEvent (.authorized idTag)).sendEvent .chargingStarted
            (.ok (), { charging with reservedFor := none })
    | _ =>
        (.error (.invalidOperation ("Cannot start transaction in status: " ++ statusDebug c.status)),
          c.sendEvent (.authorizationFailed idTag
            ("Invalid status for starting transaction: " ++ statusDebug c.status)))

def stopTransaction : Outcome :=
  c.takeTransaction (fun c => (.ok (), c)) fun c =>
    match c.physicalState with
    | .pluggedAndLocked | .plugged =>
        (.ok (), { c.setStatus .finishing with physicalState := .plugged }.sendEvent .transactionFinished)
    | .unplugged => (.ok (), (c.setStatus .available).sendEvent .transactionFinished)

def suspendByEv : Outcome :=
  if c.status = .charging then (.ok (), (c.setStatus .suspendedEV).sendEvent .chargingStoppedByEV)
  else (.ok (), c)

def suspendByEvse : Outcome :=
  if c.status = .charging then (.ok (), (c.setStatus .suspendedEVSE).sendEvent .chargingStoppedByEVSE)
  else (.ok (), c)

def resumeCharging : Outcome :=
  match c.status with
  | .suspendedEV | .suspendedEVSE => (.ok (), (c.setStatus .charging).sendEvent .chargingResumed)
  | _ => (.ok (), c)

def setFault (errorCode : ChargePointErrorCode) (info : Option String) : Outcome :=
  let noted := { c with errorCode, errorInfo := info }
  if errorCode ≠ .noError then
    let faulted := (noted.setStatus .faulted).sendEvent (.faultOccurred errorCode info)
    faulted.takeTransaction (fun c => (.ok (), c)) fun c => (.ok (), c)
  else (.ok (), noted)

def clearFault : Outcome :=
  let cleared := { c with errorCode := .noError, errorInfo := none }
  let status := match c.physicalState with
    | .unplugged => ChargePointStatus.available
    | .plugged | .pluggedAndLocked => .preparing
  (.ok (), (cleared.setStatus status).sendEvent .faultCleared)

def reserve (idTag : String) : Outcome :=
  if c.status = .available then
    (.ok (), ({ c with reservedFor := some idTag }.setStatus .reserved).sendEvent (.reserved idTag))
  else
    (.error (.invalidOperation ("Cannot reserve connector in status: " ++ statusDebug c.status)), c)

def cancelReservation : Outcome :=
  let cancelled := { c with reservedFor := none }
  let freed := if c.status = .reserved then cancelled.setStatus .available else cancelled
  (.ok (), freed.sendEvent .reservationCancelled)

end State

inductive Operation
  | plugIn
  | plugOut
  | startTransaction (idTag : String) (transactionId meterStart : Int)
  | stopTransaction (reason : String)
  | suspendByEv
  | suspendByEvse
  | resumeCharging
  | setFault (errorCode : ChargePointErrorCode) (info : Option String)
  | clearFault
  | reserve (idTag : String)
  | cancelReservation
  deriving DecidableEq, Repr

def Operation.run (c : State) : Operation → Outcome
  | plugIn => c.plugIn
  | plugOut => c.plugOut
  | startTransaction idTag transactionId meterStart => c.startTransaction idTag transactionId meterStart
  | stopTransaction _ => c.stopTransaction
  | suspendByEv => c.suspendByEv
  | suspendByEvse => c.suspendByEvse
  | resumeCharging => c.resumeCharging
  | setFault errorCode info => c.setFault errorCode info
  | clearFault => c.clearFault
  | reserve idTag => c.reserve idTag
  | cancelReservation => c.cancelReservation

def reached (connectorId : Nat) (operations : List Operation) : State :=
  operations.foldl (fun c operation => (operation.run c).2) (new connectorId)

/-! ## Coherence -/

def isCharging : ChargePointStatus → Bool
  | .charging | .suspendedEV | .suspendedEVSE => true
  | _ => false

structure State.Coherent (c : State) : Prop where
  transaction : c.currentTransaction.isSome ↔ isCharging c.status
  cable : c.physicalState = .pluggedAndLocked ↔ c.currentTransaction.isSome
  reservation : c.reservedFor.isSome → c.status = .reserved ∨ c.status = .preparing

/-- When an operation keeps a connector coherent. -/
def Keeps (c : State) : Operation → Prop
  | .plugIn => c.currentTransaction = none
  | .plugOut => c.status = .preparing → c.reservedFor = none
  | .setFault errorCode _ => errorCode ≠ .noError → c.currentTransaction = none ∧ c.reservedFor = none
  | .clearFault => c.currentTransaction = none ∧ (c.physicalState = .unplugged → c.reservedFor = none)
  | _ => True

theorem Transaction.stop_ok (transaction : Transaction) : ∃ stopped, transaction.stop = .ok stopped := by
  unfold Transaction.stop
  split_ifs
  · exact ⟨transaction, rfl⟩
  · exact ⟨_, rfl⟩

namespace State

variable {c : State}

theorem takeTransaction_eq (rest stopped : State → Outcome) :
    c.takeTransaction rest stopped =
      if c.currentTransaction.isSome then stopped { c with currentTransaction := none } else rest c := by
  unfold takeTransaction
  cases c.currentTransaction with
  | none => rfl
  | some transaction =>
      obtain ⟨ended, stops⟩ := transaction.stop_ok
      simp [stops]

theorem takeTransaction_ok {rest stopped : State → Outcome} (rests : ∀ c, (rest c).1 = .ok ())
    (stops : ∀ c, (stopped c).1 = .ok ()) : (c.takeTransaction rest stopped).1 = .ok () := by
  rw [takeTransaction_eq]
  split_ifs
  · exact stops _
  · exact rests c

theorem coherent_of_idle (idle : c.currentTransaction = none) (unlocked : c.physicalState ≠ .pluggedAndLocked)
    (quiet : isCharging c.status = false)
    (reserved : c.reservedFor.isSome → c.status = .reserved ∨ c.status = .preparing) : c.Coherent where
  transaction := by simp [idle, quiet]
  cable := by simp [idle, unlocked]
  reservation := reserved

section Coherent

variable (coherent : c.Coherent)
include coherent

theorem Coherent.busy (busy : c.currentTransaction.isSome) :
    c.physicalState = .pluggedAndLocked ∧ isCharging c.status ∧ c.reservedFor = none := by
  refine ⟨coherent.cable.mpr busy, coherent.transaction.mp busy, ?_⟩
  cases held : c.reservedFor with
  | none => rfl
  | some idTag =>
      have charging := coherent.transaction.mp busy
      rcases coherent.reservation (by simp [held]) with reserved | preparing
      · simp [reserved, isCharging] at charging
      · simp [preparing, isCharging] at charging

theorem Coherent.idle (idle : c.currentTransaction = none) :
    c.physicalState ≠ .pluggedAndLocked ∧ isCharging c.status = false := by
  constructor
  · intro locked
    have busy := coherent.cable.mp locked
    simp [idle] at busy
  · have charging := coherent.transaction
    simpa [idle] using charging

theorem Coherent.idle_of_quiet (quiet : isCharging c.status = false) : c.currentTransaction = none := by
  have charging := coherent.transaction
  simpa [quiet] using charging

theorem plugIn_coherent : c.plugIn.2.Coherent ↔ c.currentTransaction = none := by
  have cells : c.plugIn.2.physicalState = .plugged ∧ c.plugIn.2.currentTransaction = c.currentTransaction ∧
      c.plugIn.2.reservedFor = c.reservedFor ∧ c.plugIn.2.status =
        if c.status = .available ∨ c.status = .reserved then .preparing else c.status := by
    unfold plugIn
    cases c.status <;> exact ⟨rfl, rfl, rfl, rfl⟩
  obtain ⟨cable, transaction, reservation, status⟩ := cells
  constructor
  · intro after
    have unlocked := after.cable
    simpa [cable, transaction] using unlocked
  · intro idle
    obtain ⟨-, quiet⟩ := coherent.idle idle
    have reserved := coherent.reservation
    apply coherent_of_idle (transaction.trans idle)
    · simp [cable]
    · rw [status]
      split_ifs
      · rfl
      · exact quiet
    · rw [reservation, status]
      split_ifs with free
      · exact fun _ => .inr rfl
      · exact reserved

theorem plugOut_coherent : c.plugOut.2.Coherent ↔ (c.status = .preparing → c.reservedFor = none) := by
  have cells : c.plugOut.2.physicalState = .unplugged ∧ c.plugOut.2.currentTransaction = none ∧
      c.plugOut.2.reservedFor = c.reservedFor ∧ c.plugOut.2.status =
        if c.status = .reserved ∨ c.status = .unavailable ∨ c.status = .faulted then c.status
        else .available := by
    unfold plugOut
    cases status : c.status
    case charging | suspendedEV | suspendedEVSE =>
      simp only [takeTransaction_eq]
      split_ifs with busy <;> simp_all [setStatus, sendEvent]
    case finishing => exact ⟨rfl, rfl, rfl, rfl⟩
    all_goals
      have idle := coherent.idle_of_quiet (by rw [status]; rfl)
      exact ⟨rfl, idle, rfl, by simp [sendEvent, setStatus]⟩
  obtain ⟨cable, transaction, reservation, status⟩ := cells
  have reserved := coherent.reservation
  constructor
  · intro after preparing
    have free := after.reservation
    simpa [reservation, status, preparing] using free
  · intro free
    apply coherent_of_idle transaction
    · simp [cable]
    · rw [status]
      split_ifs with same
      · rcases same with same | same | same <;> rw [same] <;> rfl
      · rfl
    · rw [reservation, status]
      grind

theorem startTransaction_coherent (idTag : String) (transactionId meterStart : Int) :
    (c.startTransaction idTag transactionId meterStart).2.Coherent := by
  have failed : ∀ event, (c.sendEvent event).Coherent := fun event =>
    ⟨coherent.transaction, coherent.cable, coherent.reservation⟩
  unfold startTransaction
  split_ifs
  · exact coherent
  · exact coherent
  · exact failed _
  · split
    · simp only [Transaction.new]
      exact ⟨by simp [sendEvent, setStatus, isCharging], by simp [sendEvent, setStatus], by simp⟩
    · exact failed _

theorem stopTransaction_coherent : c.stopTransaction.2.Coherent := by
  unfold stopTransaction
  rw [takeTransaction_eq]
  split_ifs with busy
  · obtain ⟨locked, -, unreserved⟩ := coherent.busy busy
    simp only [locked]
    exact coherent_of_idle rfl nofun rfl (by simp [sendEvent, setStatus, unreserved])
  · exact coherent

theorem setStatus_coherent {status : ChargePointStatus} (charging : isCharging c.status)
    (charges : isCharging status) (event : ConnectorEvent) :
    ((c.setStatus status).sendEvent event).Coherent := by
  have busy := coherent.transaction.mpr charging
  obtain ⟨locked, -, unreserved⟩ := coherent.busy busy
  exact ⟨by simp [sendEvent, setStatus, busy, charges], by simp [sendEvent, setStatus, busy, locked],
    by simp [sendEvent, setStatus, unreserved]⟩

theorem suspendByEv_coherent : c.suspendByEv.2.Coherent := by
  unfold suspendByEv
  split_ifs with charging
  · exact setStatus_coherent coherent (by rw [charging]; rfl) rfl _
  · exact coherent

theorem suspendByEvse_coherent : c.suspendByEvse.2.Coherent := by
  unfold suspendByEvse
  split_ifs with charging
  · exact setStatus_coherent coherent (by rw [charging]; rfl) rfl _
  · exact coherent

theorem resumeCharging_coherent : c.resumeCharging.2.Coherent := by
  unfold resumeCharging
  split
  case h_1 suspended | h_2 suspended => exact setStatus_coherent coherent (by rw [suspended]; rfl) rfl _
  · exact coherent

theorem setFault_coherent (errorCode : ChargePointErrorCode) (info : Option String) :
    (c.setFault errorCode info).2.Coherent ↔
      (errorCode ≠ .noError → c.currentTransaction = none ∧ c.reservedFor = none) := by
  by_cases fault : errorCode = .noError
  · simp only [setFault, fault, ne_eq, not_true_eq_false, if_false, false_implies, iff_true]
    exact ⟨coherent.transaction, coherent.cable, coherent.reservation⟩
  have cells : (c.setFault errorCode info).2.status = .faulted ∧
      (c.setFault errorCode info).2.physicalState = c.physicalState ∧
      (c.setFault errorCode info).2.currentTransaction = none ∧
      (c.setFault errorCode info).2.reservedFor = c.reservedFor := by
    simp only [setFault, ne_eq, fault, not_false_eq_true, if_true, takeTransaction_eq]
    split_ifs with busy <;> simp_all [setStatus, sendEvent]
  obtain ⟨status, cable, transaction, reservation⟩ := cells
  constructor
  · intro after _
    have unlocked := after.cable
    have free := after.reservation
    rw [cable, transaction, coherent.cable] at unlocked
    exact ⟨by simpa using unlocked, by simpa [reservation, status] using free⟩
  · intro alone
    obtain ⟨idle, free⟩ := alone fault
    apply coherent_of_idle transaction
    · rw [cable]
      exact (coherent.idle idle).1
    · rw [status]
      rfl
    · simp [reservation, free]

theorem clearFault_coherent :
    c.clearFault.2.Coherent ↔
      c.currentTransaction = none ∧ (c.physicalState = .unplugged → c.reservedFor = none) := by
  have status : c.clearFault.2.status = if c.physicalState = .unplugged then .available else .preparing := by
    cases cable : c.physicalState <;> simp [clearFault, cable, setStatus, sendEvent]
  constructor
  · intro after
    have quiet := after.transaction
    have free := after.reservation
    rw [status] at quiet free
    constructor
    · split_ifs at quiet <;> simpa [isCharging, clearFault, sendEvent, setStatus] using quiet
    · intro unplugged
      simpa [unplugged, clearFault, sendEvent, setStatus] using free
  · rintro ⟨idle, free⟩
    apply coherent_of_idle
    · exact idle
    · exact (coherent.idle idle).1
    · rw [status]
      split_ifs
      · rfl
      · rfl
    · rw [status]
      split_ifs with unplugged
      · simp [clearFault, sendEvent, setStatus, free unplugged]
      · exact fun _ => .inr rfl

theorem reserve_coherent (idTag : String) : (c.reserve idTag).2.Coherent := by
  unfold reserve
  split_ifs with available
  · have idle := coherent.idle_of_quiet (by rw [available]; rfl)
    obtain ⟨unlocked, -⟩ := coherent.idle idle
    exact coherent_of_idle idle unlocked rfl fun _ => .inl rfl
  · exact coherent

theorem cancelReservation_coherent : c.cancelReservation.2.Coherent := by
  unfold cancelReservation
  split_ifs with reserved
  · have idle := coherent.idle_of_quiet (by rw [reserved]; rfl)
    obtain ⟨unlocked, -⟩ := coherent.idle idle
    exact coherent_of_idle idle unlocked rfl nofun
  · exact ⟨coherent.transaction, coherent.cable, nofun⟩

end Coherent

end State

theorem run_coherent {c : State} (coherent : c.Coherent) (operation : Operation) :
    (operation.run c).2.Coherent ↔ Keeps c operation := by
  cases operation with
  | plugIn => exact State.plugIn_coherent coherent
  | plugOut => exact State.plugOut_coherent coherent
  | setFault errorCode info => exact State.setFault_coherent coherent errorCode info
  | clearFault => exact State.clearFault_coherent coherent
  | startTransaction idTag transactionId meterStart =>
      exact iff_of_true (State.startTransaction_coherent coherent idTag transactionId meterStart) trivial
  | stopTransaction reason => exact iff_of_true (State.stopTransaction_coherent coherent) trivial
  | suspendByEv => exact iff_of_true (State.suspendByEv_coherent coherent) trivial
  | suspendByEvse => exact iff_of_true (State.suspendByEvse_coherent coherent) trivial
  | resumeCharging => exact iff_of_true (State.resumeCharging_coherent coherent) trivial
  | reserve idTag => exact iff_of_true (State.reserve_coherent coherent idTag) trivial
  | cancelReservation => exact iff_of_true (State.cancelReservation_coherent coherent) trivial

theorem new_coherent (connectorId : Nat) : (new connectorId).Coherent :=
  State.coherent_of_idle rfl nofun rfl nofun

structure State.Unchanged (c t : State) : Prop where
  status : t.status = c.status
  physicalState : t.physicalState = c.physicalState
  currentTransaction : t.currentTransaction = c.currentTransaction
  reservedFor : t.reservedFor = c.reservedFor

theorem run_ok {c : State} {operation : Operation}
    (other : ∀ idTag, operation ≠ .reserve idTag ∧ ∀ transactionId meterStart,
      operation ≠ .startTransaction idTag transactionId meterStart) : (operation.run c).1 = .ok () := by
  cases operation with
  | startTransaction idTag transactionId meterStart => exact absurd rfl ((other idTag).2 transactionId meterStart)
  | reserve idTag => exact absurd rfl (other idTag).1
  | plugIn =>
      simp only [Operation.run, State.plugIn]
      split <;> rfl
  | plugOut =>
      simp only [Operation.run, State.plugOut]
      split <;> first | rfl | exact State.takeTransaction_ok (fun _ => rfl) fun _ => rfl
  | stopTransaction reason =>
      refine State.takeTransaction_ok (fun _ => rfl) fun c => ?_
      split <;> rfl
  | suspendByEv | suspendByEvse =>
      simp only [Operation.run, State.suspendByEv, State.suspendByEvse]
      split_ifs <;> rfl
  | resumeCharging =>
      simp only [Operation.run, State.resumeCharging]
      split <;> rfl
  | setFault errorCode info =>
      simp only [Operation.run, State.setFault]
      split_ifs
      · exact State.takeTransaction_ok (fun _ => rfl) fun _ => rfl
      · rfl
  | clearFault | cancelReservation => rfl

/-- Only a start and a reservation can fail, before they have written anything. -/
theorem run_failed {c : State} {operation : Operation} {error : ChargePointError}
    (failed : (operation.run c).1 = .error error) : c.Unchanged (operation.run c).2 := by
  cases operation
  case startTransaction idTag transactionId meterStart =>
    simp only [Operation.run, State.startTransaction, Transaction.new] at failed ⊢
    split_ifs at failed ⊢
    · exact ⟨rfl, rfl, rfl, rfl⟩
    · exact ⟨rfl, rfl, rfl, rfl⟩
    · exact ⟨rfl, rfl, rfl, rfl⟩
    · cases status : c.status <;> simp only [status] at failed ⊢ <;>
        first | exact ⟨rfl, rfl, rfl, rfl⟩ | cases failed
  case reserve idTag =>
    simp only [Operation.run, State.reserve] at failed ⊢
    split_ifs at failed ⊢
    · exact ⟨rfl, rfl, rfl, rfl⟩
  all_goals
    rw [run_ok (by simp)] at failed
    cases failed

/-- A run of a connector goes through coherent states only, exactly when each of its operations meets the
condition; an operation that fails changes nothing. -/
theorem connector_coherent_iff (connectorId : Nat) (operations : List Operation) :
    (∀ before, before <+: operations → (reached connectorId before).Coherent ∧
      ∀ operation, before ++ [operation] <+: operations → ∀ error,
        (operation.run (reached connectorId before)).1 = .error error →
          (reached connectorId before).Unchanged (operation.run (reached connectorId before)).2) ↔
      ∀ before operation, before ++ [operation] <+: operations →
        Keeps (reached connectorId before) operation := by
  have extended : ∀ before operation, reached connectorId (before ++ [operation]) =
      (operation.run (reached connectorId before)).2 := by
    intro before operation
    simp [reached]
  constructor
  · intro coherent before operation started
    have here := (coherent before ((List.prefix_append before [operation]).trans started)).1
    have after := (coherent (before ++ [operation]) started).1
    rw [extended] at after
    exact (run_coherent here operation).mp after
  · intro kept before started
    refine ⟨?_, fun operation _ error failed => run_failed failed⟩
    induction before using List.reverseRecOn with
    | nil => exact new_coherent connectorId
    | append_singleton before operation ih =>
        rw [extended]
        apply (run_coherent (ih ?_) operation).mpr (kept before operation started)
        exact (List.prefix_append before [operation]).trans started

/-- A fault ends the transaction and leaves the cable locked. -/
theorem fault_leaves_cable_locked :
    let c := reached 1 [.plugIn, .startTransaction "TAG" 7 0, .setFault .groundFailure none]
    c.physicalState = .pluggedAndLocked ∧ c.currentTransaction = none ∧ ¬c.Coherent := by
  refine ⟨by decide, by decide, fun coherent => ?_⟩
  have busy := coherent.cable.mp (by decide)
  cases busy

end Ocpp.Connector
