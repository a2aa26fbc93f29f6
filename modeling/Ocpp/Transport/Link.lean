import Ocpp.Transport.Pending
import Ocpp.Transport.Recovery
import Ocpp.Transport.Reply

/-!
# The two ends of a connection

A `WebSocketClient` and the `handle_cp_socket` of its session, with the text frames on their way between them and the
calls that both parties make. Either loop takes a CALL out of its channel or a frame off the wire at a time, and an
answer to a CALL goes out at once, ahead of the CALLs that are still queued.
-/

namespace Ocpp.Transport.Link
open Library

inductive Side
  | chargePoint
  | csms
deriving DecidableEq

def Side.other : Side → Side
  | .chargePoint => .csms
  | .csms => .chargePoint

/-- What the loop and the `call` of one party do in their own way: what a loop reads in a frame, whom it hands a CALL
to, whether a `PendingGuard` prunes the entry of a call that is dropped, and the errors a call returns by itself. -/
structure End (η : Type) where
  classify : String → Option Message
  handle : η → CallMessage → Option Message × η
  answers : ∀ state call reply, (handle state call).1 = some reply → Answers call.uniqueId reply ∧ reply.Typed
  maxMessageSize : Nat
  validator : Option SchemaValidator
  guarded : Bool
  unreachable : OcppError
  channelClosed : OcppError
  connectionClosed : OcppError
  timedOut : String → OcppError

/-- The errors that a call returns by itself once it is registered. -/
def End.ownErrors {η : Type} (e : End η) (call : CallMessage) : List OcppError :=
  [e.channelClosed, e.connectionClosed, e.timedOut call.action]

/-- The outcome that a response has for the call it answers. -/
def response : Message → Option (String × Outcome)
  | .call _ => none
  | .callResult result => some (result.uniqueId, .ok result.payload)
  | .callError error => some (error.uniqueId, .error (.ofCallErrorMessage error))

/-! ## State -/

inductive CallState
  | idle
  | registered
  | waiting
  | returned (result : Outcome)
  | abandoned

structure Call where
  request : Option CallMessage
  state : CallState

structure Peer (η : Type) where
  running : Bool
  channelOpen : Bool
  state : η
  outbox : List CallMessage
  pending : PendingCallMap
  calls : Nat → Call
  inbox : Nat → Option Outcome
  /-- The ids drawn, the CALLs put into the channel, and those handled with what was answered. -/
  issued : List String
  sent : List CallMessage
  handled : List (CallMessage × Option Message)

/-- The parties, and the frames on their way to each. -/
structure Connection (η : Side → Type) where
  peers : ∀ side, Peer (η side)
  wires : Side → List String

namespace Peer

variable {η : Type} (peer : Peer η)

def new (state : η) : Peer η where
  running := true
  channelOpen := true
  state := state
  outbox := []
  pending := .new
  calls _ := ⟨none, .idle⟩
  inbox _ := none
  issued := []
  sent := []
  handled := []

def setCall (c : Nat) (call : Call) : Peer η :=
  { peer with calls := Function.update peer.calls c call }

/-- The call is over, and its entry is removed. -/
def finish (c : Nat) (call : CallMessage) (state : CallState) : Peer η :=
  { peer with pending := peer.pending.remove call.uniqueId }.setCall c ⟨some call, state⟩

/-- `resolve` and `reject` by the loop. -/
def settle (uniqueId : String) (outcome : Outcome) : Peer η :=
  match peer.pending.inner.lookup uniqueId with
  | none => peer
  | some c =>
      { peer with
        pending := peer.pending.remove uniqueId
        inbox := Function.update peer.inbox c (some outcome) }

end Peer

def Connection.new {η : Side → Type} (start : ∀ side, η side) : Connection η where
  peers side := .new (start side)
  wires _ := []

/-! ## Steps -/

inductive CallAction
  /-- `call` up to its registration, if the client or the handle is there. -/
  | begin (action : String) (payload : Json) (uniqueId : String) (reachable : Bool)
  | send
  | receive
  | timeout
  | abandon

inductive LoopAction
  | flush
  | deliver
  /-- The loop breaks: a write or a read fails, or the socket closes. -/
  | leave
  | cancelAll
  | dropChannel

inductive Action
  | call (side : Side) (c : Nat) (action : CallAction)
  | loop (side : Side) (action : LoopAction)

def Action.side : Action → Side
  | call side _ _ | loop side _ => side

def validated (validator : Option SchemaValidator) (check : SchemaValidator → Except OcppError Unit) :
    Except OcppError Unit :=
  match validator with
  | some validator => check validator
  | none => .ok ()

/-- What `call` makes of an outcome, short of decoding the payload. -/
def result (validator : Option SchemaValidator) (action : String) : Outcome → Outcome
  | .error e => .error e
  | .ok payload => (validated validator (·.validateCallResult action payload)).map fun _ => payload

namespace Peer

variable {η : Type} (e : End η) (peer : Peer η) (c : Nat)

def begin (action : String) (payload : Json) (uniqueId : String) (reachable : Bool) : Option (Peer η) :=
  match validated e.validator (·.validateCall action payload) with
  | .error refused => some (peer.setCall c ⟨none, .returned (.error refused)⟩)
  | .ok () =>
      if reachable then
        -- `Uuid::new_v4` draws an id that no other call has
        if uniqueId ∈ peer.issued then none
        else some ({ peer with
          pending := peer.pending.register uniqueId c
          issued := uniqueId :: peer.issued }.setCall c ⟨some ⟨.call, uniqueId, action, payload⟩, .registered⟩)
      else some (peer.setCall c ⟨none, .returned (.error e.unreachable)⟩)

def callStep : CallAction → Option (Peer η)
  | .begin action payload uniqueId reachable =>
      match (peer.calls c).state with
      | .idle => peer.begin e c action payload uniqueId reachable
      | _ => none
  | .send =>
      match peer.calls c with
      | ⟨some call, .registered⟩ =>
          if peer.channelOpen then
            some ({ peer with
              outbox := peer.outbox ++ [call]
              sent := peer.sent ++ [call] }.setCall c ⟨some call, .waiting⟩)
          else some (peer.finish c call (.returned (.error e.channelClosed)))
      | _ => none
  | .receive =>
      match peer.calls c with
      | ⟨some call, .waiting⟩ =>
          match peer.inbox c with
          | some outcome => some (peer.finish c call (.returned (result e.validator call.action outcome)))
          | none =>
              if peer.pending.inner.lookup call.uniqueId = some c then none
              else some (peer.finish c call (.returned (.error e.connectionClosed)))
      | _ => none
  | .timeout =>
      match peer.calls c with
      | ⟨some call, .waiting⟩ => some (peer.finish c call (.returned (.error (e.timedOut call.action))))
      | _ => none
  | .abandon =>
      match peer.calls c with
      | ⟨some call, .registered⟩ | ⟨some call, .waiting⟩ =>
          some (if e.guarded then peer.finish c call .abandoned else peer.setCall c ⟨some call, .abandoned⟩)
      | _ => none

end Peer

section Loop

variable {η : Type} (text : JsonText) (e : End η) (peer : Peer η)

/-- What the loop does with a frame, and what it writes in answer. A frame too large makes it break, and one that cannot
be read at all is logged. -/
def Peer.deliver (frame : String) : Peer η × Option Message :=
  if e.maxMessageSize < frame.utf8ByteSize then ({ peer with running := false }, none)
  else
    match e.classify frame with
    | some (.call call) =>
        let (reply, state) := e.handle peer.state call
        ({ peer with state := state, handled := peer.handled ++ [(call, reply)] }, reply)
    | some (.callResult result) => (peer.settle result.uniqueId (.ok result.payload), none)
    | some (.callError error) => (peer.settle error.uniqueId (.error (.ofCallErrorMessage error)), none)
    | none =>
        match recoverInboundCallError text frame with
        | some (uniqueId, error) => (peer.settle uniqueId (.error error), none)
        | none => (peer, none)

/-- The party after the step, the frames that are left for it, and the message it writes. -/
def Peer.loopStep (inbound : List String) : LoopAction → Option (Peer η × List String × Option Message)
  | .flush =>
      match peer.running, peer.outbox with
      | true, call :: outbox => some ({ peer with outbox := outbox }, inbound, some (.call call))
      | _, _ => none
  | .deliver =>
      match peer.running, inbound with
      | true, frame :: frames => some ((peer.deliver text e frame).1, frames, (peer.deliver text e frame).2)
      | _, _ => none
  | .leave => if peer.running then some ({ peer with running := false }, inbound, none) else none
  | .cancelAll => some ({ peer with pending := peer.pending.cancelAll }, inbound, none)
  | .dropChannel => if peer.running then none else some ({ peer with channelOpen := false }, inbound, none)

end Loop

section Step

variable {η : Side → Type} (text : JsonText) (ends : ∀ side, End (η side)) (s : Connection η)

def Connection.write (side : Side) (message : Option Message) : Connection η :=
  { s with wires := Function.update s.wires side (s.wires side ++ message.toList.map (writeFrame text)) }

def step : Action → Option (Connection η)
  | .call side c action =>
      ((s.peers side).callStep (ends side) c action).map fun peer =>
        { s with peers := Function.update s.peers side peer }
  | .loop side action =>
      ((s.peers side).loopStep text (ends side) (s.wires side) action).map fun (peer, inbound, message) =>
        Connection.write text
          ⟨Function.update s.peers side peer, Function.update s.wires side inbound⟩ side.other message

end Step

end Ocpp.Transport.Link
