import Ocpp.Messages.Dispatcher
import Ocpp.Transport.Inbound

/-!
# Replies of a server session

What a session sends for each inbound frame when its handler routes CALLs through a dispatcher. A CALL
is answered once it decodes; a frame without an action or a payload is logged and dropped although its
unique id can be read, and a frame that is too large ends the session.
-/

namespace Ocpp.Transport
open Library

def routedDispatcher {η : Type} (router : Router η) : ActionDispatcher (η × List SpawnedHook) where
  ocppVersion := router.ocppVersion
  dispatch := router.dispatch

variable (config : SessionConfig)

def CorrelatableCall (text : JsonText) (frame uniqueId : String) : Prop :=
  ∃ value, text.parse frame = .ok value ∧ value.get "0" = some (.string "CALL") ∧
    value.get "1" = some (.string uniqueId)

/-- The frame has what a CALL has besides its unique id: an action and a payload. -/
def CompleteCall (text : JsonText) (frame : String) : Prop :=
  ∃ value action payload, text.parse frame = .ok value ∧
    value.get "2" = some (.string action) ∧ value.get "3" = some payload

def Answers (uniqueId : String) : Message → Prop
  | .call _ => False
  | .callResult result => result.uniqueId = uniqueId
  | .callError error => error.uniqueId = uniqueId

section Session

variable {η : Type} (handler : MessageHandler η) (state : η) (frames : List InboundFrame)

def sent : List String :=
  (receive config handler state frames).flatMap fun handled =>
    handled.response.toList.map (writeFrame config.text)

def repliesTo (i : Nat) : List Message :=
  ((receive config handler state frames)[i]?.bind (·.response)).toList

def Answered (i : Nat) (uniqueId : String) : Prop :=
  ∃ reply, repliesTo config handler state frames i = [reply] ∧ Answers uniqueId reply

def InOrder : Prop :=
  sent config handler state frames = (List.range frames.length).flatMap fun i =>
    (repliesTo config handler state frames i).map (writeFrame config.text)

def EveryCallAnswered : Prop :=
  (∀ i frame uniqueId, frames[i]? = some frame →
    CorrelatableCall config.text frame.text uniqueId →
      Answered config handler state frames i uniqueId) ∧
  InOrder config handler state frames

end Session

theorem CallMessage.fromJson_object {fields : List (String × Json)} {uniqueId action : String}
    {payload : Json} (tag : fields.lookup "0" = some (.string "CALL"))
    (id : fields.lookup "1" = some (.string uniqueId))
    (name : fields.lookup "2" = some (.string action)) (body : fields.lookup "3" = some payload) :
    CallMessage.fromJson (.object fields) = some ⟨.call, uniqueId, action, payload⟩ := by
  simp [CallMessage.fromJson, Json.structFields, Json.requiredField, tag, id, name, body,
    Json.decodeVariant, MessageType.ofVariant, Json.asStr]

theorem classifyFrame_call {text : JsonText} {frame uniqueId : String}
    (correlatable : CorrelatableCall text frame uniqueId) (complete : CompleteCall text frame) :
    ∃ call : CallMessage, classifyFrame text frame = some (.call call) ∧ call.uniqueId = uniqueId := by
  obtain ⟨value, parsed, tag, id⟩ := correlatable
  obtain ⟨value', action, payload, parsed', name, body⟩ := complete
  obtain rfl : value = value' := Except.ok.inj (parsed.symm.trans parsed')
  cases value with
  | object fields =>
      refine ⟨⟨.call, uniqueId, action, payload⟩, ?_, rfl⟩
      have decoded := CallMessage.fromJson_object tag id name body
      simp only [classifyFrame, parsed, Except.toOption, Option.bind_some, tag, Json.asStr, decoded,
        Option.map_some]
  | null | bool _ | number _ | string _ | array _ => simp [Json.get] at tag

section Dispatched

variable {η : Type} (dispatcher : ActionDispatcher η)

theorem buildCallError_answers (uniqueId : String) (error : OcppError) (version : Option String) :
    Answers uniqueId (buildCallError uniqueId error version) := by
  cases error <;> rfl

theorem handleCall_answers (state : η) (call : CallMessage) :
    ∃ reply, (handleCall config (dispatchHandler dispatcher) state call).1.response = some reply ∧
      Answers call.uniqueId reply := by
  simp only [handleCall, dispatchHandler, respond]
  cases (dispatcher.dispatch state call).1 with
  | ok payload => exact ⟨_, rfl, rfl⟩
  | error e => exact ⟨_, rfl, buildCallError_answers call.uniqueId e _⟩

end Dispatched

section Positions

variable {η : Type} (handler : MessageHandler η)

theorem receive_length_le (state : η) (frames : List InboundFrame) :
    (receive config handler state frames).length ≤ frames.length := by
  induction frames generalizing state with
  | nil => exact le_rfl
  | cons frame frames ih =>
      rw [receive]
      cases handleFrame config handler state frame with
      | none => exact Nat.zero_le _
      | some next => exact Nat.succ_le_succ (ih next.2)

theorem inOrder (state : η) (frames : List InboundFrame) : InOrder config handler state frames := by
  have bound := receive_length_le config handler state frames
  unfold InOrder sent repliesTo
  generalize frames.length = count at bound ⊢
  generalize receive config handler state frames = handled at bound ⊢
  induction handled generalizing count with
  | nil => simp
  | cons handled rest ih =>
      cases count with
      | zero => simp at bound
      | succ count =>
          rw [List.range_succ_eq_map, List.flatMap_cons, List.flatMap_cons, List.flatMap_map]
          exact congrArg _ (ih count (Nat.le_of_succ_le_succ bound))

theorem receive_getElem (state : η) {frames : List InboundFrame} {i : Nat} {frame : InboundFrame}
    (found : frames[i]? = some frame)
    (fit : ∀ j ≤ i, ∀ earlier ∈ frames[j]?, earlier.text.utf8ByteSize ≤ config.maxMessageSize) :
    ∃ reached, (receive config handler state frames)[i]? =
      some (handleMessage config handler reached frame.delivered
        (classifyFrame config.text frame.text)).1 := by
  induction frames generalizing state i with
  | nil => simp at found
  | cons first frames ih =>
      have small : ¬config.maxMessageSize < first.text.utf8ByteSize :=
        not_lt.mpr (fit 0 (Nat.zero_le i) first rfl)
      simp only [receive, handleFrame, small, if_false]
      cases i with
      | zero =>
          obtain rfl : first = frame := Option.some.inj found
          exact ⟨state, rfl⟩
      | succ i =>
          exact ih _ found fun j le earlier member => fit (j + 1) (Nat.succ_le_succ le) earlier member

end Positions

/-- A session that routes CALLs through a dispatcher answers every complete CALL it reads with exactly
one CALLRESULT or CALLERROR of the same unique id, and the replies leave in the order of the CALLs. -/
theorem complete_call_answered {η : Type} (router : Router η) (state : η × List SpawnedHook)
    (frames : List InboundFrame) :
    (∀ i frame uniqueId, frames[i]? = some frame →
      CorrelatableCall config.text frame.text uniqueId → CompleteCall config.text frame.text →
      (∀ j ≤ i, ∀ earlier ∈ frames[j]?, earlier.text.utf8ByteSize ≤ config.maxMessageSize) →
        Answered config (dispatchHandler (routedDispatcher router)) state frames i uniqueId) ∧
    InOrder config (dispatchHandler (routedDispatcher router)) state frames := by
  refine ⟨?_, inOrder config _ state frames⟩
  intro i frame uniqueId found correlatable complete fit
  obtain ⟨call, classified, rfl⟩ := classifyFrame_call correlatable complete
  obtain ⟨reached, handled⟩ :=
    receive_getElem config (dispatchHandler (routedDispatcher router)) state found fit
  obtain ⟨reply, responded, answers⟩ :=
    handleCall_answers config (routedDispatcher router) reached call
  rw [classified] at handled
  refine ⟨reply, ?_, answers⟩
  simp only [repliesTo, handled, handleMessage, Option.bind_some, responded, Option.toList_some]

/-! ## Dropped CALLs -/

def actionlessCall : String :=
  "\x7b\"0\":\"CALL\",\"1\":\"42\"\x7d"

def actionlessSession : SessionConfig where
  chargePointId := "CP-1"
  connectionId := 1
  maxMessageSize := 65536
  text :=
    { print := flatText.print
      parse := fun frame =>
        if frame = actionlessCall then .ok (.object [("0", .string "CALL"), ("1", .string "42")])
        else flatText.parse frame }
  timestamps := ⟨fun _ => none⟩

def emptyRouter : Router Unit := ⟨∅, [], none⟩

theorem heartbeat_answered :
    Answered actionlessSession (dispatchHandler (routedDispatcher emptyRouter)) ((), [])
      [⟨actionlessCall, false⟩, ⟨heartbeatObject, false⟩] 1 "19223201" := by
  refine (complete_call_answered actionlessSession emptyRouter ((), []) _).1 1
    ⟨heartbeatObject, false⟩ "19223201" rfl ⟨heartbeatCall.toJson, by rfl, rfl, rfl⟩
    ⟨heartbeatCall.toJson, "Heartbeat", .object [], by rfl, rfl, rfl⟩ ?_
  intro j le earlier member
  obtain rfl | rfl : j = 0 ∨ j = 1 := by omega
  · obtain rfl : ⟨actionlessCall, false⟩ = earlier := Option.some.inj member
    decide +kernel
  · obtain rfl : ⟨heartbeatObject, false⟩ = earlier := Option.some.inj member
    decide +kernel

theorem dropped_calls_unanswered :
    ¬EveryCallAnswered actionlessSession (dispatchHandler (routedDispatcher emptyRouter)) ((), [])
      [⟨actionlessCall, false⟩] ∧
    ¬EveryCallAnswered { actionlessSession with maxMessageSize := 8 }
      (dispatchHandler (routedDispatcher emptyRouter)) ((), []) [⟨heartbeatObject, false⟩] := by
  have none_answered : ∀ reply : Message, ([] : List Message) ≠ [reply] := by simp
  refine ⟨fun answered => ?_, fun answered => ?_⟩
  · obtain ⟨reply, replied, -⟩ := answered.1 0 ⟨actionlessCall, false⟩ "42" rfl
      ⟨.object [("0", .string "CALL"), ("1", .string "42")], rfl, rfl, rfl⟩
    exact none_answered reply replied
  · obtain ⟨reply, replied, -⟩ := answered.1 0 ⟨heartbeatObject, false⟩ "19223201" rfl
      ⟨heartbeatCall.toJson, by rfl, rfl, rfl⟩
    exact none_answered reply replied

end Ocpp.Transport
