import Ocpp.Transport.Event
import Ocpp.Transport.Frame

/-!
# Inbound frames of a server session

The receiving half of `handle_cp_socket`: a CALL goes to the message handler, its answer back to the
charge point, and what it means to the host as an event. Transaction, boot and meter events are tied
to a CALLRESULT; the status event only to a handler that returned no error.
-/

namespace Ocpp.Transport
open Library V16j

structure SessionConfig where
  chargePointId : String
  connectionId : Nat
  maxMessageSize : Nat
  text : JsonText
  timestamps : Timestamps

/-- A text frame, and whether the pending map delivers it if it is a response. -/
structure InboundFrame where
  text : String
  delivered : Bool

structure Handled where
  events : List TransportEvent
  response : Option Message

variable (config : SessionConfig)

def emitTransactionEvent (action : String) (requestPayload responsePayload : Json) :
    List TransportEvent :=
  if action = "StartTransaction" then
    match StartTransactionRequest.fromJson config.timestamps requestPayload,
        StartTransactionResponse.fromJson config.timestamps responsePayload with
    | some req, some resp =>
        [.transactionStarted config.chargePointId req.connectorId req.idTag req.meterStart
          req.timestamp resp.transactionId]
    | _, _ => []
  else if action = "StopTransaction" then
    match StopTransactionRequest.fromJson config.timestamps requestPayload with
    | some req =>
        [.transactionStopped config.chargePointId req.transactionId req.meterStop req.timestamp
          req.reason req.idTag]
    | none => []
  else []

def emitLifecycleEvent (action : String) (requestPayload : Json) : List TransportEvent :=
  if action = "BootNotification" then
    match BootNotificationRequest.fromJson requestPayload with
    | some req =>
        [.bootNotification config.chargePointId req.chargePointVendor req.chargePointModel
          req.chargePointSerialNumber req.firmwareVersion]
    | none => []
  else if action = "MeterValues" then
    match MeterValuesRequest.fromJson config.timestamps requestPayload with
    | some req =>
        [.meterValues config.chargePointId req.connectorId req.transactionId req.meterValues]
    | none => []
  else []

def emitStatusEvent (action : String) (payload : Json) : List TransportEvent :=
  if action = "StatusNotification" then
    match StatusNotificationRequest.fromJson config.timestamps payload with
    | some req => [.statusNotification config.chargePointId req.connectorId req.status]
    | none => []
  else []

def semanticEvents (call : CallMessage) (answer : Except OcppError (Option Message)) :
    List TransportEvent :=
  (match answer with
    | .ok _ => emitStatusEvent config call.action call.payload
    | .error _ => []) ++
  match answer with
  | .ok (some (.callResult result)) =>
      (if call.action = "StartTransaction" ∨ call.action = "StopTransaction" then
        emitTransactionEvent config call.action call.payload result.payload
      else []) ++
      if call.action = "BootNotification" ∨ call.action = "MeterValues" then
        emitLifecycleEvent config call.action call.payload
      else []
  | _ => []

def respond (uniqueId : String) : Except OcppError (Option Message) → Option Message
  | .ok response => response
  | .error e => some (buildCallError uniqueId e none)

variable {η : Type} (handler : MessageHandler η)

def handleCall (state : η) (call : CallMessage) : Handled × η :=
  let (answer, state) := handler state (.call call)
  ({ events := .messageReceived config.connectionId (.call call) :: semanticEvents config call answer
     response := respond call.uniqueId answer }, state)

def handleMessage (state : η) (delivered : Bool) : Option Message → Handled × η
  | some (.call call) => handleCall config handler state call
  | some (.callResult result) =>
      (⟨if delivered then [] else [.messageReceived config.connectionId (.callResult result)], none⟩,
        state)
  | some (.callError _) | none => (⟨[], none⟩, state)

/-- One text frame; a frame that is too large ends the session. -/
def handleFrame (state : η) (frame : InboundFrame) : Option (Handled × η) :=
  if config.maxMessageSize < frame.text.utf8ByteSize then none
  else some (handleMessage config handler state frame.delivered
    (classifyFrame config.text frame.text))

def receive (state : η) : List InboundFrame → List Handled
  | [] => []
  | frame :: frames =>
      match handleFrame config handler state frame with
      | none => []
      | some (handled, state) => handled :: receive state frames

/-! ## Events and responses -/

def Handled.Faithful (handled : Handled) : Prop :=
  (∃ event ∈ handled.events, event.Semantic) → ∃ result, handled.response = some (.callResult result)

def answers (state : η) : List InboundFrame →
    List (CallMessage × Except OcppError (Option Message))
  | [] => []
  | frame :: frames =>
      if config.maxMessageSize < frame.text.utf8ByteSize then []
      else
        match classifyFrame config.text frame.text with
        | some (.call call) =>
            let (answer, state) := handler state (.call call)
            (call, answer) :: answers state frames
        | _ => answers state frames

/-- A status report that can be decoded is refused with an error or answered with a CALLRESULT. -/
def StatusAccepted (timestamps : Timestamps) (call : CallMessage) :
    Except OcppError (Option Message) → Prop
  | .error _ => True
  | .ok answer => call.action = "StatusNotification" →
      (StatusNotificationRequest.fromJson timestamps call.payload).isSome →
      ∃ result, answer = some (.callResult result)

theorem emitStatusEvent_semantic {action : String} {payload : Json} :
    (∃ event ∈ emitStatusEvent config action payload, event.Semantic) ↔
      action = "StatusNotification" ∧
        (StatusNotificationRequest.fromJson config.timestamps payload).isSome := by
  unfold emitStatusEvent
  split_ifs with status
  · cases StatusNotificationRequest.fromJson config.timestamps payload <;>
      simp [status, TransportEvent.Semantic]
  · simp [status]

theorem handleCall_faithful_iff (state : η) (call : CallMessage) :
    (handleCall config handler state call).1.Faithful ↔
      StatusAccepted config.timestamps call (handler state (.call call)).1 := by
  have received : ¬(TransportEvent.messageReceived config.connectionId (.call call)).Semantic := id
  simp only [handleCall, Handled.Faithful]
  cases (handler state (.call call)).1 with
  | error e => simp [semanticEvents, StatusAccepted, received]
  | ok response =>
      by_cases accepted : ∃ result, response = some (.callResult result)
      · obtain ⟨result, rfl⟩ := accepted
        simp [respond, StatusAccepted]
      · have events : semanticEvents config call (.ok response) =
            emitStatusEvent config call.action call.payload := by
          rcases response with - | (message | message | message)
          · exact List.append_nil _
          · exact List.append_nil _
          · exact absurd ⟨message, rfl⟩ accepted
          · exact List.append_nil _
        simp only [List.exists_mem_cons_iff, received, false_or, events, respond, StatusAccepted]
        rw [emitStatusEvent_semantic, and_imp]

theorem Handled.faithful_of_silent {events : List TransportEvent} {response : Option Message}
    (silent : ∀ event ∈ events, ¬event.Semantic) : Handled.Faithful ⟨events, response⟩ := by
  rintro ⟨event, member, semantic⟩
  exact absurd semantic (silent event member)

/-- Over a whole session, every CALL with an event is answered with a CALLRESULT exactly when the
handler answers every status report with a CALLRESULT or an error. -/
theorem receive_faithful_iff (state : η) (frames : List InboundFrame) :
    (∀ handled ∈ receive config handler state frames, handled.Faithful) ↔
      ∀ answered ∈ answers config handler state frames,
        StatusAccepted config.timestamps answered.1 answered.2 := by
  induction frames generalizing state with
  | nil => simp [receive, answers]
  | cons frame frames ih =>
      by_cases large : config.maxMessageSize < frame.text.utf8ByteSize
      · simp [receive, handleFrame, answers, large]
      · simp only [receive, handleFrame, answers, large, if_false, List.forall_mem_cons]
        rcases classifyFrame config.text frame.text with - | (call | result | error)
        · simp only [handleMessage, ih]
          exact and_iff_right (Handled.faithful_of_silent (by simp))
        · simp only [handleMessage, List.forall_mem_cons]
          exact and_congr (handleCall_faithful_iff config handler state call) (ih _)
        · simp only [handleMessage, ih]
          refine and_iff_right (Handled.faithful_of_silent fun event member => ?_)
          split_ifs at member
          · simp at member
          · obtain rfl := List.mem_singleton.mp member
            exact id
        · simp only [handleMessage, ih]
          exact and_iff_right (Handled.faithful_of_silent (by simp))

/-! ## A refused status report -/

def statusReport : String :=
  "\x7b\"0\":\"CALL\",\"1\":\"42\",\"2\":\"StatusNotification\",\"3\":\x7b\"connectorId\":1,\"errorCode\":\"NoError\",\"status\":\"Faulted\"\x7d\x7d"

def statusReportJson : Json :=
  .object [("0", .string "CALL"), ("1", .string "42"), ("2", .string "StatusNotification"),
    ("3", .object [("connectorId", .number (.posInt 1)), ("errorCode", .string "NoError"),
      ("status", .string "Faulted")])]

def statusSession : SessionConfig where
  chargePointId := "CP-1"
  connectionId := 1
  maxMessageSize := 65536
  text :=
    { print := flatText.print
      parse := fun frame =>
        if frame = statusReport then .ok statusReportJson
        else .error "expected value at line 1 column 1" }
  timestamps := ⟨fun _ => none⟩

def unroutedDispatcher : ActionDispatcher Unit where
  ocppVersion := none
  dispatch state call := (.error (.notSupported call.action), state)

theorem refused_status_emitted :
    ¬∀ handled ∈ receive statusSession (dispatchHandler unroutedDispatcher) () [⟨statusReport, false⟩],
      handled.Faithful := by
  intro faithful
  have member : (handleMessage statusSession (dispatchHandler unroutedDispatcher) () false
      (Message.fromJson statusReportJson)).1 ∈
        receive statusSession (dispatchHandler unroutedDispatcher) () [⟨statusReport, false⟩] :=
    List.mem_singleton.mpr rfl
  obtain ⟨result, answered⟩ := faithful _ member
    ⟨.statusNotification "CP-1" 1 .faulted, List.mem_cons_of_mem _ List.mem_cons_self, trivial⟩
  have refused : ∀ message, some (Message.callError message) ≠ some (.callResult result) := by simp
  exact refused _ answered

end Ocpp.Transport
