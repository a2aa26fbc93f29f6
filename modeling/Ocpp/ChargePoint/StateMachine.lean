import Mathlib.Data.List.Chain
import Ocpp.Library.Bounded
import Ocpp.Library.Text
import Ocpp.Messages.Encoding

/-!
# The state machine of a connector

`state_machine.rs`: an event moves the connector to the next state if there is one and if the validation of the
transition lets it, and either way the transition is recorded. The history keeps the newest hundred transitions. The
texts of a transition print the event, with `quote` for the rendering of a string.
-/

namespace Ocpp.ChargePoint
open Library V16j

inductive StateMachineEvent
  | cablePluggedIn
  | cableUnplugged
  | authorized (idTag : String)
  | authorizationFailed (reason : String)
  | chargingStarted
  | chargingStoppedByEV
  | chargingStoppedByEVSE
  | chargingResumed
  | transactionFinished
  | faultOccurred (errorCode : ChargePointErrorCode)
  | faultCleared
  | makeAvailable
  | makeUnavailable
  | reserved (idTag : String)
  | reservationCancelled
  | reset
  | remoteStartTransaction (idTag : String)
  | remoteStopTransaction
  | emergencyStop
deriving DecidableEq

def StateMachineEvent.debug (quote : String → String) : StateMachineEvent → String
  | cablePluggedIn => "CablePluggedIn"
  | cableUnplugged => "CableUnplugged"
  | authorized idTag => "Authorized \x7b id_tag: " ++ quote idTag ++ " \x7d"
  | authorizationFailed reason => "AuthorizationFailed \x7b reason: " ++ quote reason ++ " \x7d"
  | chargingStarted => "ChargingStarted"
  | chargingStoppedByEV => "ChargingStoppedByEV"
  | chargingStoppedByEVSE => "ChargingStoppedByEVSE"
  | chargingResumed => "ChargingResumed"
  | transactionFinished => "TransactionFinished"
  | faultOccurred errorCode => "FaultOccurred \x7b error_code: " ++ errorCode.toVariant ++ " \x7d"
  | faultCleared => "FaultCleared"
  | makeAvailable => "MakeAvailable"
  | makeUnavailable => "MakeUnavailable"
  | reserved idTag => "Reserved \x7b id_tag: " ++ quote idTag ++ " \x7d"
  | reservationCancelled => "ReservationCancelled"
  | reset => "Reset"
  | remoteStartTransaction idTag => "RemoteStartTransaction \x7b id_tag: " ++ quote idTag ++ " \x7d"
  | remoteStopTransaction => "RemoteStopTransaction"
  | emergencyStop => "EmergencyStop"

structure StateTransition where
  fromState : ChargePointStatus
  toState : ChargePointStatus
  event : StateMachineEvent
  success : Bool
  info : Option String
deriving DecidableEq

namespace StateTransition

def succeeded (fromState toState : ChargePointStatus) (event : StateMachineEvent) : StateTransition :=
  ⟨fromState, toState, event, true, none⟩

def successWithInfo (fromState toState : ChargePointStatus) (event : StateMachineEvent) (info : String) :
    StateTransition :=
  ⟨fromState, toState, event, true, some info⟩

def failed (state : ChargePointStatus) (event : StateMachineEvent) (reason : String) : StateTransition :=
  ⟨state, state, event, false, some reason⟩

end StateTransition

structure ConnectorStateMachine where
  currentState : ChargePointStatus
  previousState : Option ChargePointStatus
  transitionHistory : List StateTransition
  maxHistorySize : Nat
deriving DecidableEq

namespace ConnectorStateMachine

def new (initialState : ChargePointStatus) : ConnectorStateMachine :=
  ⟨initialState, none, [], 100⟩

/-! ## Transitions -/

def getNextState : ChargePointStatus → StateMachineEvent → Option ChargePointStatus
  | .available, .cablePluggedIn => some .preparing
  | .reserved, .cablePluggedIn => some .preparing
  | .faulted, .cablePluggedIn => none
  | .unavailable, .cablePluggedIn => none
  | .preparing, .cableUnplugged => some .available
  | .finishing, .cableUnplugged => some .available
  | .charging, .cableUnplugged => some .available
  | .suspendedEV, .cableUnplugged => some .available
  | .suspendedEVSE, .cableUnplugged => some .available
  | .faulted, .cableUnplugged => some .available
  | .available, .cableUnplugged => none
  | .preparing, .authorized _ => some .charging
  | .reserved, .authorized _ => some .charging
  | .preparing, .authorizationFailed _ => none
  | .charging, .chargingStoppedByEV => some .suspendedEV
  | .charging, .chargingStoppedByEVSE => some .suspendedEVSE
  | .suspendedEV, .chargingResumed => some .charging
  | .suspendedEVSE, .chargingResumed => some .charging
  | .charging, .transactionFinished => some .finishing
  | .suspendedEV, .transactionFinished => some .finishing
  | .suspendedEVSE, .transactionFinished => some .finishing
  | .preparing, .transactionFinished => some .finishing
  | .finishing, .transactionFinished => some .available
  | .charging, .remoteStopTransaction => some .finishing
  | .suspendedEV, .remoteStopTransaction => some .finishing
  | .suspendedEVSE, .remoteStopTransaction => some .finishing
  | .available, .remoteStartTransaction _ => some .preparing
  | .reserved, .remoteStartTransaction _ => some .preparing
  | _, .faultOccurred _ => some .faulted
  | .faulted, .faultCleared => some .available
  | .available, .makeUnavailable => some .unavailable
  | .preparing, .makeUnavailable => some .unavailable
  | .finishing, .makeUnavailable => some .unavailable
  | .reserved, .makeUnavailable => some .unavailable
  | .faulted, .makeUnavailable => some .unavailable
  | .unavailable, .makeAvailable => some .available
  | .available, .reserved _ => some .reserved
  | .reserved, .reservationCancelled => some .available
  | .charging, .emergencyStop => some .finishing
  | .suspendedEV, .emergencyStop => some .finishing
  | .suspendedEVSE, .emergencyStop => some .finishing
  | _, .reset => some .available
  | _, _ => none

def isBlank (idTag : String) : Bool :=
  (Text.trim idTag.toList).isEmpty

/-- The text of a `ChargePointError::ValidationError`. -/
def validationError (field message : String) : String :=
  "Validation error: " ++ field ++ " - " ++ message

def validateTransition : ChargePointStatus → ChargePointStatus → StateMachineEvent → Except String Unit
  | .preparing, .charging, .authorized idTag =>
      if isBlank idTag then .error (validationError "id_tag" "ID tag cannot be empty") else .ok ()
  | .available, .reserved, .reserved idTag =>
      if isBlank idTag then .error (validationError "id_tag" "Reservation ID tag cannot be empty") else .ok ()
  | _, .preparing, .remoteStartTransaction idTag =>
      if isBlank idTag then .error (validationError "id_tag" "Remote start ID tag cannot be empty") else .ok ()
  | _, .faulted, .faultOccurred errorCode =>
      if errorCode = .noError then .error (validationError "error_code" "Cannot fault with NoError code") else .ok ()
  | _, _, _ => .ok ()

section Operations

variable (machine : ConnectorStateMachine)

def isValidTransition (event : StateMachineEvent) : Bool :=
  (getNextState machine.currentState event).isSome

def addToHistory (transition : StateTransition) : ConnectorStateMachine :=
  { machine with transitionHistory := pushRecent machine.maxHistorySize machine.transitionHistory transition }

def invalidTransition (quote : String → String) (event : StateMachineEvent) : String :=
  "Invalid state transition: " ++ machine.currentState.toVariant ++ " with event " ++ event.debug quote

def processEvent (quote : String → String) (event : StateMachineEvent) : StateTransition × ConnectorStateMachine :=
  match getNextState machine.currentState event with
  | some toState =>
      match validateTransition machine.currentState toState event with
      | .error e =>
          let transition := .failed machine.currentState event e
          (transition, machine.addToHistory transition)
      | .ok () =>
          let transition := .succeeded machine.currentState toState event
          (transition, addToHistory
            { machine with previousState := some machine.currentState, currentState := toState } transition)
  | none =>
      let transition := .failed machine.currentState event (machine.invalidTransition quote event)
      (transition, machine.addToHistory transition)

def clearHistory : ConnectorStateMachine :=
  { machine with transitionHistory := [] }

def forceState (newState : ChargePointStatus) (reason : String) : StateTransition × ConnectorStateMachine :=
  let transition := .successWithInfo machine.currentState newState .reset reason
  (transition, addToHistory
    { machine with previousState := some machine.currentState, currentState := newState } transition)

end Operations

inductive Operation
  | processEvent (event : StateMachineEvent)
  | forceState (newState : ChargePointStatus) (reason : String)
  | clearHistory

/-- A machine with all the transitions it has recorded since its history was last cleared. -/
structure Traced where
  machine : ConnectorStateMachine
  recorded : List StateTransition

def Traced.record (s : Traced) (outcome : StateTransition × ConnectorStateMachine) : Traced :=
  ⟨outcome.2, s.recorded ++ [outcome.1]⟩

variable (quote : String → String)

def Traced.perform (s : Traced) : Operation → Traced
  | .processEvent event => s.record (s.machine.processEvent quote event)
  | .forceState newState reason => s.record (s.machine.forceState newState reason)
  | .clearHistory => ⟨s.machine.clearHistory, []⟩

def trace (initialState : ChargePointStatus) (operations : List Operation) : Traced :=
  operations.foldl (Traced.perform quote) ⟨new initialState, []⟩

/-! ## What is recorded -/

end ConnectorStateMachine

open ConnectorStateMachine

/-- The event carries no blank id tag and is no fault without an error. -/
def StateMachineEvent.Acceptable : StateMachineEvent → Prop
  | authorized idTag | reserved idTag | remoteStartTransaction idTag => ¬isBlank idTag
  | faultOccurred errorCode => errorCode ≠ .noError
  | _ => True

/-- An authorization with a blank id tag, of a connector that is reserved. -/
def Unvalidated (state : ChargePointStatus) (event : StateMachineEvent) : Prop :=
  state = .reserved ∧ ∃ idTag, event = .authorized idTag ∧ isBlank idTag

/-- An unsuccessful transition stays where it is, and a transition is successful for a valid event that is acceptable. -/
structure StateTransition.Sound (transition : StateTransition) : Prop where
  unsuccessful : transition.success = false → transition.toState = transition.fromState
  successful : ¬Unvalidated transition.fromState transition.event →
    (transition.success ↔
      (getNextState transition.fromState transition.event).isSome ∧ transition.event.Acceptable)

namespace ConnectorStateMachine

theorem validateTransition_eq_ok {state toState : ChargePointStatus} {event : StateMachineEvent}
    (next : getNextState state event = some toState) (validated : ¬Unvalidated state event) :
    validateTransition state toState event = .ok () ↔ event.Acceptable := by
  cases event with
  | authorized idTag =>
      cases state <;> cases next
      · simp [validateTransition, StateMachineEvent.Acceptable]
      · refine iff_of_true rfl fun blank => ?_
        exact validated ⟨rfl, idTag, rfl, blank⟩
  | reserved idTag =>
      cases state <;> cases next
      simp [validateTransition, StateMachineEvent.Acceptable]
  | remoteStartTransaction idTag =>
      cases state <;> cases next <;> simp [validateTransition, StateMachineEvent.Acceptable]
  | faultOccurred errorCode =>
      cases state <;> cases next <;> simp [validateTransition, StateMachineEvent.Acceptable]
  | _ => cases state <;> cases next <;> exact iff_of_true rfl trivial

variable {quote : String → String} {machine : ConnectorStateMachine}

/-- The machine after it has recorded the transition. -/
structure Records (machine : ConnectorStateMachine) (transition : StateTransition) (after : ConnectorStateMachine) :
    Prop where
  sound : transition.Sound
  fromState : transition.fromState = machine.currentState
  toState : transition.toState = after.currentState
  unsuccessful : transition.success = false →
    after.currentState = machine.currentState ∧ after.previousState = machine.previousState
  history : after.transitionHistory = pushRecent machine.maxHistorySize machine.transitionHistory transition
  size : after.maxHistorySize = machine.maxHistorySize

theorem failed_records {event : StateMachineEvent} {reason : String}
    (refused : ¬Unvalidated machine.currentState event →
      ¬((getNextState machine.currentState event).isSome ∧ event.Acceptable)) :
    Records machine (.failed machine.currentState event reason)
      (machine.addToHistory (.failed machine.currentState event reason)) where
  sound := ⟨fun _ => rfl, fun validated => iff_of_false Bool.false_ne_true (refused validated)⟩
  fromState := rfl
  toState := rfl
  unsuccessful _ := ⟨rfl, rfl⟩
  history := rfl
  size := rfl

/-- Either the transition is invalid, or its validation refuses it, or it is made. -/
theorem processEvent_records (event : StateMachineEvent) : Records machine (machine.processEvent quote event).1
    (machine.processEvent quote event).2 := by
  rw [processEvent]
  split
  · rename_i toState next
    have validation : ¬Unvalidated machine.currentState event →
        (validateTransition machine.currentState toState event = .ok () ↔ event.Acceptable) :=
      validateTransition_eq_ok next
    split
    · rename_i e refused
      apply failed_records
      rintro validated ⟨-, acceptable⟩
      rw [(validation validated).mpr acceptable] at refused
      cases refused
    · rename_i passed
      refine ⟨⟨nofun, fun validated => ?_⟩, rfl, rfl, nofun, rfl, rfl⟩
      refine iff_of_true rfl ⟨?_, (validation validated).mp passed⟩
      exact Option.isSome_iff_exists.mpr ⟨toState, next⟩
  · rename_i invalid
    apply failed_records
    rintro - ⟨valid, -⟩
    rw [invalid] at valid
    cases valid

theorem isSome_reset (state : ChargePointStatus) : (getNextState state .reset).isSome := by
  cases state <;> rfl

theorem forceState_records (newState : ChargePointStatus) (reason : String) :
    Records machine (machine.forceState newState reason).1 (machine.forceState newState reason).2 := by
  refine ⟨⟨nofun, fun _ => ?_⟩, rfl, rfl, nofun, rfl, rfl⟩
  exact iff_of_true rfl ⟨isSome_reset machine.currentState, trivial⟩

/-- The transitions since the last clear are linked up to the current state, and the history has the newest of them. -/
structure Traced.Faithful (s : Traced) : Prop where
  size : s.machine.maxHistorySize = 100
  history : s.machine.transitionHistory = s.recorded.rtake 100
  linked : s.recorded.IsChain fun earlier later => earlier.toState = later.fromState
  current : ∀ last ∈ s.recorded.getLast?, last.toState = s.machine.currentState
  sound : ∀ transition ∈ s.recorded, transition.Sound

theorem Traced.faithful_cleared (size : machine.maxHistorySize = 100) (cleared : machine.transitionHistory = []) :
    Traced.Faithful ⟨machine, []⟩ where
  size := size
  history := by rw [cleared, List.rtake_nil]
  linked := .nil
  current _ ends := nomatch ends
  sound _ member := nomatch member

theorem Traced.Faithful.record {s : Traced} (faithful : s.Faithful) {outcome : StateTransition × ConnectorStateMachine}
    (records : Records s.machine outcome.1 outcome.2) : (s.record outcome).Faithful := by
  constructor
  · exact records.size.trans faithful.size
  · rw [Traced.record, records.history, faithful.history, faithful.size, pushRecent_rtake (by decide)]
  · apply faithful.linked.append (List.isChain_singleton _)
    rintro last ends _ ⟨⟩
    rw [faithful.current last ends, records.fromState]
  · rintro _ ends
    rw [Traced.record, List.getLast?_concat] at ends
    rw [← Option.some.inj ends]
    exact records.toState
  · intro transition member
    obtain member | last := List.mem_append.mp member
    · exact faithful.sound transition member
    · rw [List.mem_singleton.mp last]
      exact records.sound

theorem Traced.Faithful.perform {s : Traced} (faithful : s.Faithful) (operation : Operation) :
    (s.perform quote operation).Faithful := by
  cases operation with
  | processEvent event => exact faithful.record (processEvent_records event)
  | forceState newState reason => exact faithful.record (forceState_records newState reason)
  | clearHistory => exact faithful_cleared faithful.size rfl

theorem trace_faithful (initialState : ChargePointStatus) (operations : List Operation) :
    (trace quote initialState operations).Faithful := by
  induction operations using List.reverseRecOn with
  | nil => exact Traced.faithful_cleared rfl rfl
  | append_singleton operations operation ih =>
      rw [trace, List.foldl_append]
      exact ih.perform operation

/-- The event is recorded as it is processed: without success where nothing changes, and with success, apart from an
authorization that is not validated, if and only if it is valid just before and acceptable. -/
structure ProcessedExactly (machine : ConnectorStateMachine) (event : StateMachineEvent) (transition : StateTransition)
    (after : ConnectorStateMachine) : Prop where
  named : transition.event = event
  recorded : after.transitionHistory.getLast? = some transition
  unsuccessful : transition.success = false →
    after.currentState = machine.currentState ∧ after.previousState = machine.previousState
  successful : ¬Unvalidated machine.currentState event →
    (transition.success ↔ machine.isValidTransition event ∧ event.Acceptable)

theorem processEvent_event (event : StateMachineEvent) : (machine.processEvent quote event).1.event = event := by
  rw [processEvent]
  split
  · split <;> rfl
  · rfl

theorem processEvent_exactly (event : StateMachineEvent) : ProcessedExactly machine event
    (machine.processEvent quote event).1 (machine.processEvent quote event).2 := by
  have records : Records machine (machine.processEvent quote event).1 (machine.processEvent quote event).2 :=
    processEvent_records event
  have successful := records.sound.successful
  rw [processEvent_event, records.fromState] at successful
  refine ⟨processEvent_event event, ?_, records.unsuccessful, successful⟩
  rw [records.history, getLast?_pushRecent]

/-- After every run the history holds the newest hundred transitions that were recorded since it was last cleared. Each
ends where the next one starts, the last one ends in the current state, and each is sound, as is any event that is
processed then. -/
theorem history_faithful (initialState : ChargePointStatus) (operations : List Operation) :
    let s := trace quote initialState operations
    s.machine.transitionHistory = s.recorded.rtake 100 ∧
      (s.machine.transitionHistory.IsChain fun earlier later => earlier.toState = later.fromState) ∧
      (∀ last ∈ s.machine.transitionHistory.getLast?, last.toState = s.machine.currentState) ∧
      (∀ transition ∈ s.machine.transitionHistory, transition.Sound) ∧
      ∀ event, ProcessedExactly s.machine event (s.machine.processEvent quote event).1
        (s.machine.processEvent quote event).2 := by
  intro s
  have faithful : s.Faithful := trace_faithful initialState operations
  have newest : s.machine.transitionHistory <:+ s.recorded := faithful.history ▸ rtake_suffix
  refine ⟨faithful.history, faithful.linked.suffix newest, ?_, ?_, processEvent_exactly⟩
  · intro last ends
    rw [faithful.history, getLast?_rtake (by decide)] at ends
    exact faithful.current last ends
  · exact fun transition member => faithful.sound transition (newest.mem member)

/-- A connector that is preparing: the transition is valid, and its validation refuses the blank id tag. -/
theorem blank_authorization_refused :
    let machine := (trace id .available [.processEvent .cablePluggedIn]).machine
    machine.isValidTransition (.authorized "") ∧ ¬(machine.processEvent id (.authorized "")).1.success := by
  decide +kernel

end ConnectorStateMachine

end Ocpp.ChargePoint
