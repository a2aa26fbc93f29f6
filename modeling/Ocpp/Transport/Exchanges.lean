import Ocpp.Library.Correlation
import Ocpp.Library.Transition
import Ocpp.Transport.Link

/-!
# The exchanges over a connection

The calls of either party and the CALLs that the other handles are an exchange: what waits in the channel and on the
wire is its queue of requests, and the responses on the wire back are its queue of replies. Each step of the parties is
a step of an exchange or is not seen by it.
-/

namespace Ocpp.Transport.Link
open Library

def CallState.stage : CallState → Stage
  | .idle => .idle
  | .registered => .registered
  | .waiting => .waiting
  | .returned _ | .abandoned => .ended

def called : Message → Option CallMessage
  | .call call => some call
  | .callResult _ | .callError _ => none

def End.readCall {η : Type} (e : End η) (frame : String) : Option CallMessage :=
  (e.classify frame).bind called

def End.readResponse {η : Type} (e : End η) (text : JsonText) (frame : String) : Option (String × Outcome) :=
  match e.classify frame with
  | some message => response message
  | none => (recoverInboundCallError text frame).map fun (uniqueId, error) => (uniqueId, .error error)

def End.service {η : Type} (e : End η) : Service String CallMessage Message Outcome η where
  requestId := CallMessage.uniqueId
  serve := e.handle
  response := response
  answers state call reply id outcome handled read := by
    have answered := (e.answers state call reply handled).1
    cases reply with
    | call message => cases read
    | callResult result =>
        obtain ⟨rfl, -⟩ := Prod.mk.inj (Option.some.inj read)
        exact answered
    | callError error =>
        obtain ⟨rfl, -⟩ := Prod.mk.inj (Option.some.inj read)
        exact answered

def exchange {η η' : Type} (text : JsonText) (caller : End η) (callee : End η') (peer : Peer η) (other : Peer η')
    (outbound inbound : List String) : Exchange String CallMessage Message Outcome η' where
  requests c := (peer.calls c).request
  stage c := (peer.calls c).state.stage
  pending uniqueId := peer.pending.inner.lookup uniqueId
  inbox := peer.inbox
  issued := peer.issued
  sent := peer.sent
  queue := if other.running then outbound.filterMap callee.readCall ++ peer.outbox else []
  serving := other.running
  state := other.state
  served := other.handled
  replies := if peer.running then inbound.filterMap (caller.readResponse text) else []
  listening := peer.running

section Simulation

variable {η η' : Type} {text : JsonText} {caller : End η} {callee : End η'} {peer peer' : Peer η}
  {other other' : Peer η'} {outbound inbound : List String} {start : η'} {c : Nat} {quiet : Bool}

theorem setCall_requests (call : Call) : (fun c' => ((peer.setCall c call).calls c').request) =
    Function.update (fun c' => (peer.calls c').request) c call.request := by
  funext c'
  exact Function.apply_update (fun _ => Call.request) peer.calls c call c'

theorem setCall_stages (call : Call) : (fun c' => ((peer.setCall c call).calls c').state.stage) =
    Function.update (fun c' => (peer.calls c').state.stage) c call.state.stage := by
  funext c'
  exact Function.apply_update (fun _ => fun call => call.state.stage) peer.calls c call c'

theorem register_entries (map : PendingCallMap) (uniqueId : String) (c : Nat) :
    (fun id => (map.register uniqueId c).inner.lookup id) =
      Function.update (fun id => map.inner.lookup id) uniqueId (some c) := by
  funext id
  rw [Function.update_apply]
  exact HashMap.lookup_insert ..

theorem remove_entries (map : PendingCallMap) (uniqueId : String) :
    (fun id => (map.remove uniqueId).inner.lookup id) =
      Function.update (fun id => map.inner.lookup id) uniqueId none := by
  funext id
  rw [Function.update_apply]
  exact HashMap.lookup_erase ..

theorem setCall_exchange {call : Option CallMessage} {state : CallState} {entries : PendingCallMap}
    (made : (peer.calls c).request = call) (ended : state.stage = .ended)
    (kept : ∀ id c', c' ≠ c → peer.pending.inner.lookup id = some c' → entries.inner.lookup id = some c')
    (fewer : ∀ id c', entries.inner.lookup id = some c' → peer.pending.inner.lookup id = some c') :
    (exchange text caller callee peer other outbound inbound).Step callee.service quiet
      (exchange text caller callee ({ peer with pending := entries }.setCall c ⟨call, state⟩) other outbound
        inbound) := by
  apply Exchange.Step.of_eq (Exchange.Step.finish c (fun id => entries.inner.lookup id) kept fewer)
  apply Exchange.ext <;> try rfl
  · refine (setCall_requests ⟨call, state⟩).trans ?_
    rw [← made]
    exact Function.update_eq_self ..
  · refine (setCall_stages ⟨call, state⟩).trans ?_
    rw [← ended]
    rfl

theorem finish_exchange (inv : (exchange text caller callee peer other outbound inbound).Inv callee.service start)
    {call : CallMessage} (made : (peer.calls c).request = some call) {state : CallState}
    (ended : state.stage = .ended) :
    (exchange text caller callee peer other outbound inbound).Step callee.service quiet
      (exchange text caller callee (peer.finish c call state) other outbound inbound) := by
  apply setCall_exchange made ended
  · intro id c' different found
    obtain ⟨request, made', correlated⟩ := inv.entries id c' found
    have other : id ≠ call.uniqueId := by
      rintro rfl
      exact different (inv.distinct c' c request call made' made correlated)
    exact (AList.lookup_erase_ne other).trans found
  · exact fun _ _ => HashMap.lookup_of_erase

theorem begin_exchange (inv : (exchange text caller callee peer other outbound inbound).Inv callee.service start)
    {action : String} {payload : Json} {uniqueId : String} {reachable : Bool}
    (idle : (peer.calls c).state = .idle)
    (stepped : peer.begin caller c action payload uniqueId reachable = some peer') :
    (exchange text caller callee peer other outbound inbound).Step callee.service quiet
      (exchange text caller callee peer' other outbound inbound) := by
  have absent : (peer.calls c).request = none := inv.idle c (congrArg CallState.stage idle)
  unfold Peer.begin at stepped
  split at stepped
  · obtain rfl := Option.some.inj stepped
    exact setCall_exchange absent rfl (fun _ _ _ found => found) fun _ _ found => found
  · split_ifs at stepped with reached drawn
    · obtain rfl := Option.some.inj stepped
      apply Exchange.Step.of_eq (Exchange.Step.register c ⟨.call, uniqueId, action, payload⟩
        (congrArg CallState.stage idle) drawn)
      apply Exchange.ext <;> try rfl
      · exact setCall_requests _
      · exact setCall_stages _
      · exact register_entries ..
    · obtain rfl := Option.some.inj stepped
      exact setCall_exchange absent rfl (fun _ _ _ found => found) fun _ _ found => found

/-- A step of a call is a step of its exchange. -/
theorem callStep_exchange (inv : (exchange text caller callee peer other outbound inbound).Inv callee.service start)
    {action : CallAction} (stepped : peer.callStep caller c action = some peer') :
    (exchange text caller callee peer other outbound inbound).Step callee.service quiet
      (exchange text caller callee peer' other outbound inbound) := by
  cases action with
  | begin action payload uniqueId reachable =>
      simp only [Peer.callStep] at stepped
      split at stepped
      · exact begin_exchange inv ‹_› stepped
      · cases stepped
  | send =>
      simp only [Peer.callStep] at stepped
      split at stepped
      · rename_i call registered
        split_ifs at stepped with open_
        · obtain rfl := Option.some.inj stepped
          have made : (peer.calls c).request = some call := congrArg Call.request registered
          apply Exchange.Step.of_eq (Exchange.Step.send c call (by simp [exchange, registered, CallState.stage]) made)
          apply Exchange.ext <;> try rfl
          · refine (setCall_requests _).trans ?_
            rw [← made]
            exact Function.update_eq_self ..
          · exact setCall_stages _
          · simp only [exchange, Peer.setCall]
            split_ifs with running
            · rw [List.append_assoc]
            · rfl
        · obtain rfl := Option.some.inj stepped
          exact finish_exchange inv (congrArg Call.request registered) rfl
      · cases stepped
  | receive =>
      simp only [Peer.callStep] at stepped
      split at stepped
      · rename_i call waiting
        have made : (peer.calls c).request = some call := congrArg Call.request waiting
        split at stepped
        · obtain rfl := Option.some.inj stepped
          exact finish_exchange inv made rfl
        · split_ifs at stepped with found
          obtain rfl := Option.some.inj stepped
          exact finish_exchange inv made rfl
      · cases stepped
  | timeout =>
      simp only [Peer.callStep] at stepped
      split at stepped
      · rename_i call waiting
        obtain rfl := Option.some.inj stepped
        exact finish_exchange inv (congrArg Call.request waiting) rfl
      · cases stepped
  | abandon =>
      have abandoned : ∀ call, (peer.calls c).request = some call →
          (exchange text caller callee peer other outbound inbound).Step callee.service quiet
            (exchange text caller callee
              (if caller.guarded then peer.finish c call .abandoned else peer.setCall c ⟨some call, .abandoned⟩)
              other outbound inbound) := by
        intro call made
        split_ifs with guarded
        · exact finish_exchange inv made rfl
        · exact setCall_exchange made rfl (fun _ _ _ found => found) fun _ _ found => found
      simp only [Peer.callStep] at stepped
      split at stepped
      · rename_i call registered
        exact Option.some.inj stepped ▸ abandoned call (congrArg Call.request registered)
      · rename_i call waiting
        exact Option.some.inj stepped ▸ abandoned call (congrArg Call.request waiting)
      · cases stepped

theorem readCall_of_classify {e : End η} {frame : String} {message : Message}
    (read : e.classify frame = some message) : e.readCall frame = called message := by
  rw [End.readCall, read, Option.bind_some]

theorem readResponse_of_classify {e : End η} {frame : String} {message : Message}
    (read : e.classify frame = some message) : e.readResponse text frame = response message := by
  rw [End.readResponse, read]

theorem settle_exchange {reply : String × Outcome} {frames : List String} {frame : String}
    (running : peer.running) (read : caller.readResponse text frame = some reply) :
    (exchange text caller callee peer other outbound (frame :: frames)).Step callee.service quiet
      (exchange text caller callee (peer.settle reply.1 reply.2) other outbound frames) := by
  have first : (exchange text caller callee peer other outbound (frame :: frames)).replies =
      reply :: frames.filterMap (caller.readResponse text) := by
    simp [exchange, running, List.filterMap_cons_some read]
  apply Exchange.Step.of_eq (Exchange.Step.settle reply _ first)
  cases found : peer.pending.inner.lookup reply.1 with
  | none =>
      have same : Function.update (fun id => peer.pending.inner.lookup id) reply.1 none =
          fun id => peer.pending.inner.lookup id := by
        rw [← found]
        exact Function.update_eq_self ..
      apply Exchange.ext <;> simp [exchange, Peer.settle, found, running, same]
  | some c =>
      apply Exchange.ext <;> simp [exchange, Peer.settle, found, running, remove_entries]

/-- The frame is not one of the messages. -/
theorem silent_exchange {frame : String} {frames : List String} (silent : caller.readResponse text frame = none) :
    exchange text caller callee peer other outbound frames =
      exchange text caller callee peer other outbound (frame :: frames) := by
  simp [exchange, List.filterMap_cons_none silent]

/-! ### The loops -/

/-- The loop does not break, and no call is cancelled. -/
def CalmLoop {η : Type} (e : End η) (inbound : List String) : LoopAction → Prop
  | .flush => True
  | .deliver => ∀ frame ∈ inbound.head?, frame.utf8ByteSize ≤ e.maxMessageSize
  | .leave | .cancelAll | .dropChannel => False

theorem called_of_answers {uniqueId : String} {message : Message} (answers : Answers uniqueId message) :
    called message = none := by
  cases message with
  | call message => exact answers.elim
  | callResult message => rfl
  | callError message => rfl

theorem leave_exchange (left : quiet = false) (frames : List String) :
    (exchange text caller callee peer other outbound inbound).Step callee.service quiet
      (exchange text caller callee { peer with running := false } other outbound frames) := by
  subst left
  apply Exchange.Step.of_eq .stopListening
  apply Exchange.ext <;> rfl

theorem answer_exchange {reply : Option Message} (responds : ∀ message ∈ reply, called message = none)
    (read : ∀ message ∈ reply, callee.classify (writeFrame text message) = some message) :
    exchange text caller callee peer other (outbound ++ reply.toList.map (writeFrame text)) inbound =
      exchange text caller callee peer other outbound inbound := by
  cases reply with
  | none => simp
  | some message =>
      have silent : callee.readCall (writeFrame text message) = none :=
        (readCall_of_classify (read message rfl)).trans (responds message rfl)
      simp [exchange, List.filterMap_append, silent]

/-- What the caller's loop does with a frame settles a reply, unless it is too large. -/
theorem deliver_caller {frame : String} {frames : List String} (running : peer.running)
    (read : ∀ message ∈ (peer.deliver text caller frame).2,
      callee.classify (writeFrame text message) = some message)
    (fits : quiet → frame.utf8ByteSize ≤ caller.maxMessageSize) :
    let t := exchange text caller callee (peer.deliver text caller frame).1 other
      (outbound ++ (peer.deliver text caller frame).2.toList.map (writeFrame text)) frames
    t = exchange text caller callee peer other outbound (frame :: frames) ∨
      (exchange text caller callee peer other outbound (frame :: frames)).Step callee.service quiet t := by
  unfold Peer.deliver at read ⊢
  split_ifs at read ⊢ with large
  · right
    have left : quiet = false := by
      cases quiet with
      | false => rfl
      | true => exact absurd large (Nat.not_lt.mpr (fits rfl))
    simpa using leave_exchange left frames
  · have settled : ∀ reply, caller.readResponse text frame = some reply →
        (exchange text caller callee peer other outbound (frame :: frames)).Step callee.service quiet
          (exchange text caller callee (peer.settle reply.1 reply.2) other (outbound ++ []) frames) := by
      intro reply found
      rw [List.append_nil]
      exact settle_exchange running found
    cases classified : caller.classify frame with
    | none =>
        simp only [classified] at read ⊢
        cases recovered : recoverInboundCallError text frame with
        | none =>
            left
            simp only [Option.toList_none, List.map_nil, List.append_nil]
            exact silent_exchange (by simp [End.readResponse, classified, recovered])
        | some found =>
            right
            exact settled (found.1, .error found.2) (by simp [End.readResponse, classified, recovered])
    | some message =>
        cases message with
        | call call =>
            left
            simp only [classified] at read ⊢
            have silent : caller.readResponse text frame = none := readResponse_of_classify classified
            have responds : ∀ message ∈ (caller.handle peer.state call).1, called message = none :=
              fun message answered => called_of_answers (caller.answers peer.state call message answered).1
            rw [answer_exchange responds read]
            exact silent_exchange silent
        | callResult result =>
            right
            simp only [classified] at read ⊢
            exact settled (result.uniqueId, .ok result.payload) (readResponse_of_classify classified)
        | callError error =>
            right
            simp only [classified] at read ⊢
            exact settled (error.uniqueId, .error (.ofCallErrorMessage error)) (readResponse_of_classify classified)

/-- A step of the caller's loop settles a reply or is not seen, unless the loop breaks or calls are cancelled. -/
theorem callerLoop_exchange {action : LoopAction} {inbound' : List String} {message : Option Message}
    (stepped : peer.loopStep text caller inbound action = some (peer', inbound', message))
    (read : ∀ sent ∈ message, callee.classify (writeFrame text sent) = some sent)
    (calm : quiet → CalmLoop caller inbound action) :
    let t := exchange text caller callee peer' other (outbound ++ message.toList.map (writeFrame text)) inbound'
    t = exchange text caller callee peer other outbound inbound ∨
      (exchange text caller callee peer other outbound inbound).Step callee.service quiet t := by
  have disturbing : ¬CalmLoop caller inbound action → quiet = false := by
    intro uncalm
    cases quiet with
    | false => rfl
    | true => exact absurd (calm rfl) uncalm
  cases action with
  | flush =>
      simp only [Peer.loopStep] at stepped
      split at stepped
      · rename_i call outbox running queued
        obtain ⟨rfl, rfl, rfl⟩ := by simpa using stepped
        left
        have called : callee.readCall (writeFrame text (.call call)) = some call :=
          readCall_of_classify (read (.call call) rfl)
        simp [exchange, queued, List.filterMap_append, called]
      · cases stepped
  | deliver =>
      simp only [Peer.loopStep] at stepped
      split at stepped
      · rename_i frame frames running
        obtain ⟨rfl, rfl, rfl⟩ := by simpa using stepped
        exact deliver_caller running read fun calmly => calm calmly frame rfl
      · cases stepped
  | leave =>
      simp only [Peer.loopStep] at stepped
      split_ifs at stepped
      obtain ⟨rfl, rfl, rfl⟩ := by simpa using stepped
      right
      simpa using leave_exchange (disturbing id) inbound
  | cancelAll =>
      obtain ⟨rfl, rfl, rfl⟩ := by simpa [Peer.loopStep] using stepped
      right
      have left := disturbing id
      subst left
      apply Exchange.Step.of_eq .cancel
      apply Exchange.ext <;> try rfl
      simp [exchange]
  | dropChannel =>
      simp only [Peer.loopStep] at stepped
      split_ifs at stepped
      obtain ⟨rfl, rfl, rfl⟩ := by simpa using stepped
      left
      simp [exchange]

theorem stop_exchange (left : quiet = false) (frames : List String) :
    (exchange text caller callee peer other outbound inbound).Step callee.service quiet
      (exchange text caller callee peer { other with running := false } frames inbound) := by
  subst left
  apply Exchange.Step.of_eq .stopServing
  apply Exchange.ext <;> rfl

/-- The frame is not a CALL. -/
theorem uncalled_exchange {frame : String} {frames : List String} (uncalled : callee.readCall frame = none) :
    exchange text caller callee peer other frames inbound =
      exchange text caller callee peer other (frame :: frames) inbound := by
  simp [exchange, List.filterMap_cons_none uncalled]

theorem settle_callee (uniqueId : String) (outcome : Outcome) :
    exchange text caller callee peer (other.settle uniqueId outcome) outbound inbound =
      exchange text caller callee peer other outbound inbound := by
  unfold Peer.settle
  split <;> rfl

theorem serve_exchange {call : CallMessage} {frame : String} {frames : List String} (running : other.running)
    (called : callee.readCall frame = some call)
    (read : ∀ message ∈ (callee.handle other.state call).1,
      caller.classify (writeFrame text message) = some message) :
    (exchange text caller callee peer other (frame :: frames) inbound).Step callee.service quiet
      (exchange text caller callee peer
        { other with
          state := (callee.handle other.state call).2
          handled := other.handled ++ [(call, (callee.handle other.state call).1)] } frames
        (inbound ++ (callee.handle other.state call).1.toList.map (writeFrame text))) := by
  have first : (exchange text caller callee peer other (frame :: frames) inbound).queue =
      call :: (frames.filterMap callee.readCall ++ peer.outbox) := by
    simp [exchange, running, List.filterMap_cons_some called]
  apply Exchange.Step.of_eq (Exchange.Step.serve call _ first running)
  apply Exchange.ext <;> try rfl
  · simp [exchange, running]
  · simp only [exchange, Service.respond, End.service, List.filterMap_append]
    cases replied : (callee.handle other.state call).1 with
    | none => simp
    | some reply =>
        have answered : caller.readResponse text (writeFrame text reply) = response reply :=
          readResponse_of_classify (read reply replied)
        cases said : response reply with
        | none => simp [answered, said]
        | some outcome => by_cases listening : peer.running <;> simp [answered, said, listening]

theorem deliver_callee {frame : String} {frames : List String} (running : other.running)
    (read : ∀ message ∈ (other.deliver text callee frame).2,
      caller.classify (writeFrame text message) = some message)
    (fits : quiet → frame.utf8ByteSize ≤ callee.maxMessageSize) :
    let t := exchange text caller callee peer (other.deliver text callee frame).1 frames
      (inbound ++ (other.deliver text callee frame).2.toList.map (writeFrame text))
    t = exchange text caller callee peer other (frame :: frames) inbound ∨
      (exchange text caller callee peer other (frame :: frames) inbound).Step callee.service quiet t := by
  unfold Peer.deliver at read ⊢
  split_ifs at read ⊢ with large
  · right
    have left : quiet = false := by
      cases quiet with
      | false => rfl
      | true => exact absurd large (Nat.not_lt.mpr (fits rfl))
    simpa using stop_exchange left frames
  · cases classified : callee.classify frame with
    | none =>
        simp only [classified] at read ⊢
        have uncalled : callee.readCall frame = none := by simp [End.readCall, classified]
        left
        rw [← uncalled_exchange uncalled]
        split <;> simp [settle_callee]
    | some message =>
        have reads : callee.readCall frame = called message := readCall_of_classify classified
        cases message with
        | call call =>
            right
            simp only [classified] at read ⊢
            exact serve_exchange running reads read
        | callResult result =>
            left
            rw [← uncalled_exchange reads]
            simp [settle_callee]
        | callError error =>
            left
            rw [← uncalled_exchange reads]
            simp [settle_callee]

/-- A step of the callee's loop serves a CALL or is not seen, unless the loop breaks. -/
theorem calleeLoop_exchange {action : LoopAction} {outbound' : List String} {message : Option Message}
    (stepped : other.loopStep text callee outbound action = some (other', outbound', message))
    (read : ∀ sent ∈ message, caller.classify (writeFrame text sent) = some sent)
    (calm : quiet → CalmLoop callee outbound action) :
    let t := exchange text caller callee peer other' outbound' (inbound ++ message.toList.map (writeFrame text))
    t = exchange text caller callee peer other outbound inbound ∨
      (exchange text caller callee peer other outbound inbound).Step callee.service quiet t := by
  have disturbing : ¬CalmLoop callee outbound action → quiet = false := by
    intro uncalm
    cases quiet with
    | false => rfl
    | true => exact absurd (calm rfl) uncalm
  cases action with
  | flush =>
      simp only [Peer.loopStep] at stepped
      split at stepped
      · rename_i call outbox running queued
        obtain ⟨rfl, rfl, rfl⟩ := by simpa using stepped
        left
        have silent : caller.readResponse text (writeFrame text (.call call)) = none :=
          readResponse_of_classify (read (.call call) rfl)
        simp [exchange, List.filterMap_append, silent]
      · cases stepped
  | deliver =>
      simp only [Peer.loopStep] at stepped
      split at stepped
      · rename_i frame frames running
        obtain ⟨rfl, rfl, rfl⟩ := by simpa using stepped
        exact deliver_callee running read fun calmly => calm calmly frame rfl
      · cases stepped
  | leave =>
      simp only [Peer.loopStep] at stepped
      split_ifs at stepped
      obtain ⟨rfl, rfl, rfl⟩ := by simpa using stepped
      right
      simpa using stop_exchange (disturbing id) outbound
  | cancelAll =>
      obtain ⟨rfl, rfl, rfl⟩ := by simpa [Peer.loopStep] using stepped
      left
      simp [exchange]
  | dropChannel =>
      simp only [Peer.loopStep] at stepped
      split_ifs at stepped
      obtain ⟨rfl, rfl, rfl⟩ := by simpa using stepped
      left
      simp [exchange]

theorem begin_keeps {action : String} {payload : Json} {uniqueId : String} {reachable : Bool}
    (stepped : other.begin callee c action payload uniqueId reachable = some other') :
    other'.running = other.running ∧ other'.state = other.state ∧ other'.handled = other.handled := by
  revert stepped
  fun_cases Peer.begin callee other c action payload uniqueId reachable <;> rintro ⟨⟩ <;> exact ⟨rfl, rfl, rfl⟩

theorem callStep_keeps {action : CallAction} (stepped : other.callStep callee c action = some other') :
    other'.running = other.running ∧ other'.state = other.state ∧ other'.handled = other.handled := by
  revert stepped
  fun_cases Peer.callStep callee other c action
  case case1 => exact begin_keeps
  all_goals
    rintro ⟨⟩
    try split_ifs
    all_goals exact ⟨rfl, rfl, rfl⟩

/-- The calls that the callee makes are not seen. -/
theorem callStep_callee {action : CallAction} (stepped : other.callStep callee c action = some other') :
    exchange text caller callee peer other' outbound inbound =
      exchange text caller callee peer other outbound inbound := by
  obtain ⟨running, state, handled⟩ := callStep_keeps stepped
  simp only [exchange, running, state, handled]

end Simulation

/-! ## Steps of the connection -/

section Connection

variable {η : Side → Type} (text : JsonText) (ends : ∀ side, End (η side))

def Connection.exchange (s : Connection η) (side : Side) :
    Exchange String CallMessage Message Outcome (η side.other) :=
  Link.exchange text (ends side) (ends side.other) (s.peers side) (s.peers side.other) (s.wires side.other)
    (s.wires side)

/-- The other party reads the frame that is written as the message it is written for. -/
def Readable (s : Connection η) : Action → Prop
  | .call _ _ _ => True
  | .loop side action => ∀ peer inbound message,
      (s.peers side).loopStep text (ends side) (s.wires side) action = some (peer, inbound, some message) →
        (ends side.other).classify (writeFrame text message) = some message

def Calm (s : Connection η) : Action → Prop
  | .call _ _ _ => True
  | .loop side action => CalmLoop (ends side) (s.wires side) action

variable {text ends} {s t : Connection η}

theorem step_exchange {action : Action} (quiet : Bool) {start : ∀ side, η side} (side : Side)
    (inv : (s.exchange text ends side).Inv (ends side.other).service (start side.other))
    (readable : Readable text ends s action) (calm : quiet → Calm ends s action)
    (stepped : step text ends s action = some t) :
    t.exchange text ends side = s.exchange text ends side ∨
      (s.exchange text ends side).Step (ends side.other).service quiet (t.exchange text ends side) := by
  cases action with
  | call side' c action =>
      obtain ⟨peer, acted, rfl⟩ := Option.map_eq_some_iff.mp stepped
      cases side <;> cases side'
      case chargePoint.chargePoint | csms.csms => exact .inr (callStep_exchange inv acted)
      case chargePoint.csms | csms.chargePoint => exact .inl (callStep_callee acted)
  | loop side' action =>
      obtain ⟨⟨peer, inbound, message⟩, acted, rfl⟩ := Option.map_eq_some_iff.mp stepped
      have read : ∀ sent ∈ message, (ends side'.other).classify (writeFrame text sent) = some sent := by
        rintro sent rfl
        exact readable peer inbound sent acted
      cases side <;> cases side'
      case chargePoint.chargePoint | csms.csms => exact callerLoop_exchange acted read calm
      case chargePoint.csms | csms.chargePoint => exact calleeLoop_exchange acted read calm

end Connection

end Ocpp.Transport.Link
