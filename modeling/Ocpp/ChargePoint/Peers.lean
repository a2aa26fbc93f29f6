import Ocpp.ChargePoint.CallErrors
import Ocpp.Transport.Client
import Ocpp.Transport.Conversation

/-!
# A charge point and its CSMS

The two ends of a connection as the crates build them: `ChargePoint::call` and `CpHandler` on a `WebSocketClient`,
`OcppServer::call` and `DispatchHandler` on the session of `handle_cp_socket`, each with its own dispatcher.
-/

namespace Ocpp.ChargePoint.Peers
open Library Transport Link

/-- What the two parties are configured with. -/
structure Parties (η : Side → Type) where
  text : JsonText
  maxMessageSize : Side → Nat
  validator : Side → Option SchemaValidator
  router : ∀ side, Router (η side)
  cpId : String

/-- The state of the handlers of a party, and the after-hooks it has spawned. -/
abbrev State (η : Side → Type) (side : Side) : Type :=
  η side × List SpawnedHook

section Ends

variable {η : Type}

theorem cpHandler_ok (dispatcher : ActionDispatcher η) (state : η) (call : CallMessage) :
    ∃ reply, (cpHandler dispatcher state (.call call)).1 = .ok (some reply) ∧
      Answers call.uniqueId reply ∧ reply.Typed := by
  simp only [cpHandler]
  cases (dispatcher.dispatch state call).1 <;> exact ⟨_, rfl, rfl, rfl⟩

theorem dispatchHandler_ok (dispatcher : ActionDispatcher η) (state : η) (call : CallMessage) :
    ∃ reply, (dispatchHandler dispatcher state (.call call)).1 = .ok (some reply) ∧
      Answers call.uniqueId reply ∧ reply.Typed := by
  simp only [dispatchHandler]
  cases (dispatcher.dispatch state call).1 with
  | ok payload => exact ⟨_, rfl, rfl, rfl⟩
  | error e => exact ⟨_, rfl, buildCallError_answers .., by cases e <;> rfl⟩

variable {η : Side → Type}

/-- An answer that is an error is only logged. -/
def webSocketClient (parties : Parties η) : End (State η .chargePoint) where
  classify := decodeFrame parties.text
  handle state call :=
    let (answer, state) := cpHandler (routedDispatcher (parties.router .chargePoint)) state (.call call)
    (answer.toOption.bind id, state)
  answers state call reply replied := by
    obtain ⟨answer, ok, answers⟩ := cpHandler_ok (routedDispatcher (parties.router .chargePoint)) state call
    simp only [ok, Except.toOption, Option.bind_some, id, Option.some.injEq] at replied
    exact replied ▸ answers
  maxMessageSize := parties.maxMessageSize .chargePoint
  validator := parties.validator .chargePoint
  guarded := true
  unreachable := Client.notConnected
  channelClosed := Client.channelClosed
  connectionClosed := Client.connectionClosed
  timedOut action := .timeout (action ++ " call")

def handleCpSocket (parties : Parties η) : End (State η .csms) where
  classify := classifyFrame parties.text
  handle state call :=
    let (answer, state) := dispatchHandler (routedDispatcher (parties.router .csms)) state (.call call)
    (respond call.uniqueId answer, state)
  answers state call reply replied := by
    obtain ⟨answer, ok, answers⟩ := dispatchHandler_ok (routedDispatcher (parties.router .csms)) state call
    simp only [ok, respond, Option.some.injEq] at replied
    exact replied ▸ answers
  maxMessageSize := parties.maxMessageSize .csms
  validator := parties.validator .csms
  guarded := false
  unreachable := .cpNotConnected parties.cpId
  channelClosed := .cpNotConnected parties.cpId
  connectionClosed := .transport ("connection to '" ++ parties.cpId ++ "' closed while awaiting CALLRESULT")
  timedOut action := .timeout (action ++ " call to " ++ parties.cpId)

def ends (parties : Parties η) : ∀ side, End (State η side)
  | .chargePoint => webSocketClient parties
  | .csms => handleCpSocket parties

end Ends

/-! ## Both ends read what is written -/

section Frames

variable {text : JsonText} {message : Message}

theorem fromJson_toJson (typed : message.Typed) : Message.fromJson message.toJson = some message := by
  cases message with
  | call call =>
      obtain ⟨messageType, uniqueId, action, payload⟩ := call
      obtain rfl : messageType = .call := typed
      rfl
  | callResult result =>
      obtain ⟨messageType, uniqueId, payload⟩ := result
      obtain rfl : messageType = .callResult := typed
      rfl
  | callError error =>
      obtain ⟨messageType, uniqueId, errorCode, errorDescription, errorDetails⟩ := error
      obtain rfl : messageType = .callError := typed
      cases errorCode <;> rfl

theorem decodeFrame_write (typed : message.Typed)
    (readBack : text.parse (writeFrame text message) = .ok message.toJson) :
    decodeFrame text (writeFrame text message) = some message := by
  rw [decodeFrame, readBack]
  exact fromJson_toJson typed

theorem classifyFrame_write (typed : message.Typed)
    (readBack : text.parse (writeFrame text message) = .ok message.toJson) :
    classifyFrame text (writeFrame text message) = some message := by
  have decoded := fromJson_toJson typed
  rw [classifyFrame, readBack]
  cases message with
  | call call =>
      obtain ⟨messageType, uniqueId, action, payload⟩ := call
      obtain rfl : messageType = .call := typed
      exact decoded
  | callResult result =>
      obtain ⟨messageType, uniqueId, payload⟩ := result
      obtain rfl : messageType = .callResult := typed
      exact decoded
  | callError error =>
      obtain ⟨messageType, uniqueId, errorCode, errorDescription, errorDetails⟩ := error
      obtain rfl : messageType = .callError := typed
      exact decoded

end Frames

section Ends

variable {η : Side → Type}

theorem ends_reads (parties : Parties η) : Reads parties.text (ends parties) := by
  intro side message typed readBack
  cases side with
  | chargePoint => exact decodeFrame_write typed readBack
  | csms => exact classifyFrame_write typed readBack

theorem ends_reply (parties : Parties η) (side : Side) (state : State η side) (call : CallMessage) :
    ((ends parties side).handle state call).1.isSome := by
  cases side with
  | chargePoint =>
      obtain ⟨answer, ok, -⟩ := cpHandler_ok (routedDispatcher (parties.router .chargePoint)) state call
      simp [ends, webSocketClient, ok, Except.toOption]
  | csms =>
      obtain ⟨answer, ok, -⟩ := dispatchHandler_ok (routedDispatcher (parties.router .csms)) state call
      simp [ends, handleCpSocket, ok, respond]

end Ends

/-! ## A heartbeat -/

def heartbeatResult : String :=
  "\x7b\"0\":\"CALLRESULT\",\"1\":\"19223201\",\"2\":\x7b\x7d\x7d"

def heartbeatParties : Parties fun _ => Unit where
  text :=
    { print := flatText.print
      parse := fun frame =>
        if frame = heartbeatResult then .ok (Message.newCallResult "19223201" (.object [])).toJson
        else flatText.parse frame }
  maxMessageSize _ := 65536
  validator _ := none
  router
    | .chargePoint => emptyRouter
    | .csms =>
        { handlers := (∅ : HashMap _ _).insert "Heartbeat" ⟨fun state _ _ => (.ok (.object []), state), false⟩
          afterHooks := ["Heartbeat"]
          validator := none }
  cpId := "CP1"

def heartbeat : List Action :=
  [.call .chargePoint 0 (.begin "Heartbeat" (.object []) "19223201" true), .call .chargePoint 0 .send,
    .loop .chargePoint .flush, .loop .csms .deliver, .loop .chargePoint .deliver]

def heartbeatStep : Connection (State fun _ => Unit) → Action → Option (Connection (State fun _ => Unit)) :=
  step heartbeatParties.text (ends heartbeatParties)

theorem heartbeat_calm : Along heartbeatStep (fun s action =>
    ReadBack heartbeatParties.text (ends heartbeatParties) s action ∧ Calm (ends heartbeatParties) s action)
    (.new fun _ => ((), [])) heartbeat := by
  refine .cons ⟨trivial, trivial⟩ rfl (.cons ⟨trivial, trivial⟩ rfl ?_)
  refine .cons ⟨?_, trivial⟩ rfl ?_
  · rintro _ _ _ ⟨⟩
    rfl
  refine .cons ⟨?_, ?_⟩ rfl ?_
  · rintro _ _ _ ⟨⟩
    rfl
  · rintro frame ⟨⟩
    decide +kernel
  refine .cons ⟨?_, ?_⟩ rfl trivial
  · rintro _ _ _ ⟨⟩
  · rintro frame ⟨⟩
    decide +kernel

def heartbeatCalled : CallMessage :=
  ⟨.call, "19223201", "Heartbeat", .object []⟩

theorem heartbeat_readBack : Along heartbeatStep (ReadBack heartbeatParties.text (ends heartbeatParties))
    (.new fun _ => ((), [])) (heartbeat ++ [.call .chargePoint 0 .receive]) := by
  have readBack : Along heartbeatStep (ReadBack heartbeatParties.text (ends heartbeatParties))
      (.new fun _ => ((), [])) heartbeat :=
    heartbeat_calm.of_invariant (fun _ _ _ _ _ _ => trivial) (fun _ _ (_ : True) both => both.1) trivial
  exact Along.append.mpr ⟨readBack, fun t _ => ⟨trivial, fun _ _ => trivial⟩⟩

/-! ## Conversations -/

section Conversation

variable {η : Side → Type} {parties : Parties η} {start : ∀ side, State η side} {actions : List Action}
  {s : Connection (State η)}

/-- In every run, the calls of either party are handled by the other once each and in their order, and every call that
has returned has an error of its own or what was answered to its CALL. -/
theorem calls_correspond
    (readBack : Along (step parties.text (ends parties)) (ReadBack parties.text (ends parties)) (.new start) actions)
    (ran : run (step parties.text (ends parties)) (.new start) actions = some s) (side : Side) :
    Corresponds (ends parties) start s side :=
  (sound_run (ends_reads parties) readBack ran).corresponds side

theorem heartbeat_corresponds :
    ∃ s, run heartbeatStep (.new fun _ => ((), [])) (heartbeat ++ [.call .chargePoint 0 .receive]) = some s ∧
      (s.peers .chargePoint).calls 0 = ⟨some heartbeatCalled, .returned (.ok (.object []))⟩ ∧
      Corresponds (ends heartbeatParties) (fun _ => ((), [])) s .chargePoint :=
  ⟨_, rfl, rfl, calls_correspond heartbeat_readBack rfl .chargePoint⟩

/-- While the loops run, they take at most three steps for a CALL; once they have nothing left to do, every call that
waits returns what the other party answered to its CALL. -/
theorem calls_complete
    (calm : Along (step parties.text (ends parties)) (fun s action =>
      ReadBack parties.text (ends parties) s action ∧ Calm (ends parties) s action) (.new start) actions)
    (ran : run (step parties.text (ends parties)) (.new start) actions = some s) :
    actions.countP Action.isLoop ≤ 3 * ((s.peers .chargePoint).sent.length + (s.peers .csms).sent.length) ∧
    (Idle parties.text (ends parties) s → ∀ side c call, (s.peers side).calls c = ⟨some call, .waiting⟩ →
      ∃ reply answer, (call, some reply) ∈ (s.peers side.other).handled ∧
        response reply = some (call.uniqueId, answer) ∧
        (s.peers side).callStep (ends parties side) c .receive = some ((s.peers side).finish c call
          (.returned (result (ends parties side).validator call.action answer)))) := by
  refine ⟨calm_loops (ends_reads parties) calm ran, fun idle side c call waiting => ?_⟩
  obtain ⟨sound, complete⟩ := calm_run (ends_reads parties) calm ran
  obtain ⟨answer, handed⟩ := Option.isSome_iff_exists.mp
    (complete.answered sound idle (ends_reply parties side.other) waiting)
  obtain ⟨request, reply, made, handled, read⟩ := (sound.exchanging side).delivered c answer handed
  obtain rfl : call = request := Option.some.inj ((congrArg Call.request waiting).symm.trans made)
  refine ⟨reply, answer, handled, read, ?_⟩
  simp only [Peer.callStep, waiting, handed]

theorem heartbeat_complete :
    ∃ s, run heartbeatStep (.new fun _ => ((), [])) heartbeat = some s ∧ ∃ reply answer,
      (heartbeatCalled, some reply) ∈ (s.peers .csms).handled ∧ response reply = some ("19223201", answer) := by
  refine ⟨_, rfl, ?_⟩
  obtain ⟨reply, answer, handled, read, -⟩ := (calls_complete heartbeat_calm rfl).2
    (fun side => by cases side <;> exact ⟨rfl, rfl⟩) .chargePoint 0 heartbeatCalled rfl
  exact ⟨reply, answer, handled, read⟩

end Conversation

/-! ## What is behind an answer -/

section Answers

variable {η : Side → Type} (parties : Parties η) {side : Side}

theorem ends_validator (side : Side) : (ends parties side).validator = parties.validator side := by
  cases side <;> rfl

theorem handle_state (side : Side) (state : State η side) (call : CallMessage) :
    ((ends parties side).handle state call).2 = ((parties.router side).dispatch state call).2 := by
  cases side <;> rfl

theorem handle_callResult (side : Side) (state : State η side) (call : CallMessage) (payload : Json) :
    ((ends parties side).handle state call).1 = some (.callResult ⟨.callResult, call.uniqueId, payload⟩) ↔
      ((parties.router side).dispatch state call).1 = .ok payload := by
  cases side with
  | chargePoint =>
      simp only [ends, webSocketClient, cpHandler, routedDispatcher]
      cases ((parties.router .chargePoint).dispatch state call).1 with
      | ok response => simp [Except.toOption, Message.newCallResult]
      | error e => simp [Except.toOption, Message.newCallError]
  | csms =>
      simp only [ends, handleCpSocket, dispatchHandler, routedDispatcher, respond]
      cases ((parties.router .csms).dispatch state call).1 with
      | ok response => simp [Message.newCallResult]
      | error e => cases e <;> simp [buildCallError, Message.newCallError]

theorem handle_response {side : Side} {state : State η side} {call : CallMessage} {reply : Message} {payload : Json}
    (replied : ((ends parties side).handle state call).1 = some reply)
    (read : response reply = some (call.uniqueId, .ok payload)) :
    ((parties.router side).dispatch state call).1 = .ok payload := by
  apply (handle_callResult parties side state call payload).mp
  rw [replied]
  cases reply with
  | call message => cases read
  | callError message => simp [response] at read
  | callResult result =>
      obtain ⟨-, typed⟩ := (ends parties side).answers state call _ replied
      obtain ⟨messageType, uniqueId, body⟩ := result
      obtain rfl : messageType = .callResult := typed
      obtain ⟨rfl, same⟩ := Prod.mk.inj (Option.some.inj read)
      obtain rfl : body = payload := Except.ok.inj same
      rfl

end Answers

section Routed

variable {η : Type} {router : Router η} {state : η × List SpawnedHook} {call : CallMessage}

/-- The route of the CALL has passed the payload, responded, and passed the response. -/
def RoutedTo (router : Router η) (call : CallMessage) (response : Json) : Prop :=
  ∃ route reached, router.handlers.lookup call.action = some route ∧
    router.validated route (·.validateCall call.action call.payload) = .ok () ∧
    (route.handler reached call.payload call.uniqueId).1 = .ok response ∧
    router.validated route (·.validateCallResult call.action response) = .ok ()

def spawned (router : Router η) (call : CallMessage) (response : Json) : List SpawnedHook :=
  if call.action ∈ router.afterHooks then [⟨call.action, call.payload, response, call.uniqueId⟩] else []

theorem dispatch_cases (router : Router η) (state : η × List SpawnedHook) (call : CallMessage) :
    (∃ e, (router.dispatch state call).1 = .error e ∧ (router.dispatch state call).2.2 = state.2) ∨
    ∃ response, (router.dispatch state call).1 = .ok response ∧ RoutedTo router call response ∧
      (router.dispatch state call).2.2 = state.2 ++ spawned router call response := by
  fun_cases Router.dispatch router state call
  case case5 route routed passed response inner responded checked hook =>
    refine .inr ⟨response, rfl, ⟨route, state.1, routed, passed, by rw [responded], checked⟩, ?_⟩
    simp only [spawned]
    split_ifs
    · rfl
    · exact (List.append_nil _).symm
  all_goals exact .inl ⟨_, rfl, rfl⟩

end Routed

section Conversation

variable {η : Side → Type} {parties : Parties η} {start : ∀ side, State η side} {actions : List Action}
  {s : Connection (State η)}

/-- The payload is what the route of the other party responded to the CALL, and both parties have checked both. -/
structure Served (parties : Parties η) (side : Side) (call : CallMessage) (payload : Json) : Prop where
  request : validated (parties.validator side) (·.validateCall call.action call.payload) = .ok ()
  routed : RoutedTo (parties.router side.other) call payload
  response : validated (parties.validator side) (·.validateCallResult call.action payload) = .ok ()

theorem result_ok {validator : Option SchemaValidator} {action : String} {answer : Outcome} {payload : Json}
    (same : .ok payload = result validator action answer) :
    answer = .ok payload ∧ validated validator (·.validateCallResult action payload) = .ok () := by
  cases answer with
  | error e => cases same
  | ok body =>
      cases checked : validated validator (·.validateCallResult action body) with
      | error e => simp [result, checked, Except.map] at same
      | ok _ =>
          obtain rfl : payload = body := by simpa [result, checked, Except.map] using same
          exact ⟨rfl, checked⟩

/-- In every run, a call returns a payload only if the other party's handler responded with it to that CALL, and every
check on the way passed. -/
theorem ok_call_served
    (readBack : Along (step parties.text (ends parties)) (ReadBack parties.text (ends parties)) (.new start) actions)
    (ran : run (step parties.text (ends parties)) (.new start) actions = some s) {side : Side} {c : Nat}
    {call : CallMessage} {payload : Json}
    (returned : (s.peers side).calls c = ⟨some call, .returned (.ok payload)⟩) :
    Served parties side call payload := by
  have sound := sound_run (ends_reads parties) readBack ran
  obtain ⟨e, -, own⟩ | ⟨reply, answer, handled, read, same⟩ := sound.returning side c call _ returned
  · cases own
  · obtain ⟨rfl, checked⟩ := result_ok same
    obtain ⟨reached, replied⟩ := sound.handled handled
    have dispatched := handle_response parties replied read
    rw [ends_validator] at checked
    refine ⟨?_, ?_, checked⟩
    · rw [← ends_validator]
      exact ((sound.checked side).1 c call (congrArg Call.request returned)).2
    · obtain ⟨e, refused, -⟩ | ⟨response, responded, routed, -⟩ :=
        dispatch_cases (parties.router side.other) reached call
      · rw [dispatched] at refused
        cases refused
      · rw [dispatched] at responded
        exact Except.ok.inj responded ▸ routed

theorem heartbeat_served : Served heartbeatParties .chargePoint heartbeatCalled (.object []) := by
  obtain ⟨s, ran, returned, -⟩ : ∃ s, run heartbeatStep (.new fun _ => ((), []))
      (heartbeat ++ [.call .chargePoint 0 .receive]) = some s ∧
        (s.peers .chargePoint).calls 0 = ⟨some heartbeatCalled, .returned (.ok (.object []))⟩ ∧ True :=
    ⟨_, rfl, rfl, trivial⟩
  exact ok_call_served heartbeat_readBack ran returned

/-! ### After-hooks -/

/-- What a CALL that was handled has spawned: nothing unless it was answered with a CALLRESULT. -/
def hooksOf {η : Type} (router : Router η) : CallMessage × Option Message → List SpawnedHook
  | (call, some (.callResult result)) => spawned router call result.payload
  | _ => []

theorem handle_hooks (side : Side) (state : State η side) (call : CallMessage) :
    ((ends parties side).handle state call).2.2 =
      state.2 ++ hooksOf (parties.router side) (call, ((ends parties side).handle state call).1) := by
  rw [handle_state]
  obtain ⟨e, refused, same⟩ | ⟨response, responded, -, grown⟩ := dispatch_cases (parties.router side) state call
  · have silent : hooksOf (parties.router side) (call, ((ends parties side).handle state call).1) = [] := by
      cases replied : ((ends parties side).handle state call).1 with
      | none => rfl
      | some reply =>
          cases reply with
          | callResult result =>
              have own : result.uniqueId = call.uniqueId := ((ends parties side).answers state call _ replied).1
              have read : response (.callResult result) = some (call.uniqueId, .ok result.payload) := by
                rw [response, own]
              have answered := handle_response parties replied read
              rw [refused] at answered
              cases answered
          | call message | callError message => rfl
    rw [same, silent, List.append_nil]
  · rw [grown, (handle_callResult parties side state call response).mpr responded]
    rfl

/-- In every run, each party has spawned the hook of every CALL that it answered with a CALLRESULT and whose action has
one, with the payload and the response, in the order in which the other party sent the CALLs. -/
theorem hooks_spawned
    (readBack : Along (step parties.text (ends parties)) (ReadBack parties.text (ends parties)) (.new start) actions)
    (ran : run (step parties.text (ends parties)) (.new start) actions = some s) (side : Side) :
    (s.peers side).state.2 = (start side).2 ++ (s.peers side).handled.flatMap (hooksOf (parties.router side)) := by
  have sound := sound_run (ends_reads parties) readBack ran
  have recorded : ∀ side : Side, (s.peers side.other).state.2 =
      (start side.other).2 ++ (s.peers side.other).handled.flatMap (hooksOf (parties.router side.other)) := by
    intro side
    have inv := sound.exchanging side
    have record := Service.after_record (ends parties side.other).service Prod.snd (hooksOf (parties.router side.other))
      (handle_hooks side.other) (start side.other) ((s.peers side.other).handled.map Prod.fst)
    rw [show (s.peers side.other).state = _ from inv.reached]
    refine record.trans (congrArg _ (congrArg _ ?_))
    exact inv.ran.symm
  cases side with
  | chargePoint => exact recorded .csms
  | csms => exact recorded .chargePoint

theorem heartbeat_hooked :
    ∃ s, run heartbeatStep (.new fun _ => ((), [])) (heartbeat ++ [.call .chargePoint 0 .receive]) = some s ∧
      (s.peers .csms).state.2 = [⟨"Heartbeat", .object [], .object [], "19223201"⟩] :=
  ⟨_, rfl, hooks_spawned heartbeat_readBack rfl .csms⟩

end Conversation

end Ocpp.ChargePoint.Peers
