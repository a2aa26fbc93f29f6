import Mathlib.Logic.Function.Basic
import Ocpp.Library.HashMap
import Ocpp.Library.Transition
import Ocpp.Transport.Event

/-!
# The tasks of the server

`server.rs` as a transition system: the sessions of charge points (`handle_cp_socket`), the CALLs of the
host (`OcppServer::call`) and the sweeps of idle connections (`cleanup_idle_connections`), each taking
one access to the shared maps at a time, in any order. A connection id stands for the outbound channel
and the pending map of its session, which a handle shares with it.
-/

namespace Ocpp.Transport
open Library

structure ConnectionInfo where
  remoteAddr : String
  lastActivity : DateTime
  deriving DecidableEq, Repr

/-- `num_seconds() as u64` sends a negative idle time beyond every timeout. -/
def ConnectionInfo.isIdle (info : ConnectionInfo) (now : DateTime) (timeoutSecs : Nat) : Bool :=
  timeoutSecs < (BitVec.ofInt 64 (now.numSeconds info.lastActivity)).toNat

/-! ## State -/

/-- How far a session is through `handle_cp_socket`, by what it did last. -/
inductive Phase
  | absent
  | accepted
  | connected
  | routed
  | running
  | left
  | unrouted
  | cancelled
  | removed
  | reported
  | finished
  deriving DecidableEq, Repr

namespace Phase

def isOpen : Phase → Bool
  -- from `connections.insert` to `connections.remove`
  | connected | routed | running | left | unrouted | cancelled => true
  | absent | accepted | removed | reported | finished => false

def isStarted : Phase → Bool
  -- before `cp_handles.insert`
  | absent | accepted | connected => false
  | routed | running | left | unrouted | cancelled | removed | reported | finished => true

def isTornDown : Phase → Bool
  -- since `cp_handles.remove_if`
  | unrouted | cancelled | removed | reported | finished => true
  | absent | accepted | connected | routed | running | left => false

def isCancelled : Phase → Bool
  -- since `pending.cancel_all`
  | cancelled | removed | reported | finished => true
  | absent | accepted | connected | routed | running | left | unrouted => false

def isReported : Phase → Bool
  -- since the `Disconnected` event
  | reported | finished => true
  | absent | accepted | connected | routed | running | left | unrouted | cancelled | removed => false

end Phase

structure Session where
  cpId : String
  info : ConnectionInfo
  phase : Phase
  deriving DecidableEq, Repr

inductive CallState
  | idle
  | lookedUp (connectionId : Nat)
  | registered (connectionId : Nat) (uniqueId : String)
  | waiting (connectionId : Nat) (uniqueId : String)
  | returned (result : Except OcppError Json)

structure Call where
  cpId : String
  action : String
  state : CallState

inductive Sweep
  | collecting (ids : List Nat)
  | removing (ids : List Nat)
  | reporting (id : Nat) (ids : List Nat)
  deriving DecidableEq, Repr

/-- The shared maps, the tasks, the outcomes delivered to calls, the events emitted so far, and for
the record the handles inserted so far, the latest first. -/
structure ServerState where
  connections : HashMap Nat ConnectionInfo
  cpHandles : HashMap String Nat
  sessions : Nat → Session
  pending : Nat → HashMap String Nat
  calls : Nat → Call
  inbox : Nat → Option (Except OcppError Json)
  sweeps : Nat → Sweep
  events : List TransportEvent
  starts : List (String × Nat)

namespace ServerState

def init : ServerState where
  connections := ∅
  cpHandles := ∅
  sessions := fun _ => ⟨"", ⟨"", ⟨0⟩⟩, .absent⟩
  pending := fun _ => ∅
  calls := fun _ => ⟨"", "", .idle⟩
  inbox := fun _ => none
  sweeps := fun _ => .collecting []
  events := []
  starts := []

def phase (s : ServerState) (id : Nat) : Phase :=
  (s.sessions id).phase

def setPhase (s : ServerState) (id : Nat) (phase : Phase) : ServerState :=
  { s with sessions := Function.update s.sessions id { s.sessions id with phase } }

def emit (s : ServerState) (event : TransportEvent) : ServerState :=
  { s with events := s.events ++ [event] }

/-- `PendingCallMap::resolve` and `reject`: the entry goes, and its call gets the outcome. -/
def settle (s : ServerState) (id : Nat) (uniqueId : String) (outcome : Except OcppError Json) :
    ServerState :=
  match (s.pending id).lookup uniqueId with
  | none => s
  | some c =>
      { s with
        pending := Function.update s.pending id ((s.pending id).erase uniqueId)
        inbox := Function.update s.inbox c (some outcome) }

def setCall (s : ServerState) (c : Nat) (state : CallState) : ServerState :=
  { s with calls := Function.update s.calls c { s.calls c with state } }

def setSweep (s : ServerState) (k : Nat) (sweep : Sweep) : ServerState :=
  { s with sweeps := Function.update s.sweeps k sweep }

variable (s : ServerState) (id : Nat)

@[simp] theorem setPhase_phase (phase : Phase) (other : Nat) :
    (s.setPhase id phase).phase other = if other = id then phase else s.phase other := by
  by_cases same : other = id <;> simp [setPhase, ServerState.phase, same]

theorem setPhase_flag {β : Type} (flag : Phase → β) {phase : Phase}
    (same : flag phase = flag (s.phase id)) (other : Nat) :
    flag ((s.setPhase id phase).phase other) = flag (s.phase other) := by
  rw [setPhase_phase]
  split_ifs with here
  · rw [here, same]
  · rfl

@[simp] theorem setPhase_cpId (phase : Phase) (other : Nat) :
    ((s.setPhase id phase).sessions other).cpId = (s.sessions other).cpId := by
  by_cases same : other = id <;> simp [setPhase, same]

theorem setCall_calls (c : Nat) (state : CallState) (other : Nat) :
    ((s.setCall c state).calls other).state =
      if other = c then state else (s.calls other).state := by
  by_cases same : other = c <;> simp [setCall, same]

theorem settle_frame (uniqueId : String) (outcome : Except OcppError Json) :
    ∃ pending inbox, s.settle id uniqueId outcome = { s with pending, inbox } := by
  unfold settle
  split
  · exact ⟨s.pending, s.inbox, rfl⟩
  · exact ⟨_, _, rfl⟩

theorem settle_pending {uniqueId : String} {outcome : Except OcppError Json} {other : Nat}
    {uniqueId' : String} {c : Nat}
    (found : ((s.settle id uniqueId outcome).pending other).lookup uniqueId' = some c) :
    (s.pending other).lookup uniqueId' = some c := by
  unfold settle at found
  split at found
  · exact found
  · dsimp only at found
    by_cases same : other = id
    · subst same
      rw [Function.update_self] at found
      by_cases erased : uniqueId' = uniqueId
      · subst erased
        rw [AList.lookup_erase] at found
        cases found
      · rwa [AList.lookup_erase_ne erased] at found
    · rwa [Function.update_of_ne same] at found

end ServerState

/-! ## Steps -/

inductive SessionAction
  | accept (cpId : String) (now : DateTime)
  | insertConnection
  | insertHandle
  | emitConnected
  | settle (uniqueId : String) (outcome : Except OcppError Json)
  | leaveLoop
  | removeHandle
  | cancelAll
  | removeConnection
  | emitDisconnected
  | dropOutbound

/-- A step of a session. A connection id is new when it is accepted. -/
def sessionStep (s : ServerState) (id : Nat) (action : SessionAction) : Option ServerState :=
  let session := s.sessions id
  match action, session.phase with
  | .accept cpId now, .absent =>
      some { s with sessions := Function.update s.sessions id ⟨cpId, ⟨cpId, now⟩, .accepted⟩ }
  | .insertConnection, .accepted =>
      some { s.setPhase id .connected with connections := s.connections.insert id session.info }
  | .insertHandle, .connected =>
      some { s.setPhase id .routed with
        cpHandles := s.cpHandles.insert session.cpId id
        starts := (session.cpId, id) :: s.starts }
  | .emitConnected, .routed => some ((s.setPhase id .running).emit (.connected id session.cpId))
  | .settle uniqueId outcome, .running => some (s.settle id uniqueId outcome)
  | .leaveLoop, .running => some (s.setPhase id .left)
  | .removeHandle, .left =>
      some { s.setPhase id .unrouted with
        cpHandles :=
          if s.cpHandles.lookup session.cpId = some id then s.cpHandles.erase session.cpId
          else s.cpHandles }
  | .cancelAll, .unrouted =>
      some { s.setPhase id .cancelled with pending := Function.update s.pending id ∅ }
  | .removeConnection, .cancelled =>
      some { s.setPhase id .removed with connections := s.connections.erase id }
  | .emitDisconnected, .removed =>
      some ((s.setPhase id .reported).emit (.disconnected id "Connection closed"))
  | .dropOutbound, .reported => some (s.setPhase id .finished)
  | _, _ => none

theorem sessionStep_calls {s t : ServerState} {id : Nat} {action : SessionAction}
    (stepped : sessionStep s id action = some t) : t.calls = s.calls := by
  revert stepped
  fun_cases sessionStep s id action <;> rintro ⟨⟩
  case case5 session uniqueId outcome running =>
    obtain ⟨pending, inbox, framed⟩ := s.settle_frame id uniqueId outcome
    rw [framed]
  all_goals rfl

inductive CallAction
  | lookUp (cpId action : String)
  | register (uniqueId : String)
  | send
  | receive
  | timeOut

def callStep (s : ServerState) (c : Nat) (action : CallAction) : Option ServerState :=
  let call := s.calls c
  match action, call.state with
  | .lookUp cpId action, .idle =>
      let state :=
        match s.cpHandles.lookup cpId with
        | none => .returned (.error (.cpNotConnected cpId))
        | some id => .lookedUp id
      some { s with calls := Function.update s.calls c ⟨cpId, action, state⟩ }
  | .register uniqueId, .lookedUp id =>
      some { s.setCall c (.registered id uniqueId) with
        pending := Function.update s.pending id ((s.pending id).insert uniqueId c) }
  | .send, .registered id uniqueId =>
      if s.phase id = .finished then
        some ((s.settle id uniqueId (.error (.cpNotConnected call.cpId))).setCall c
          (.returned (.error (.cpNotConnected call.cpId))))
      else some (s.setCall c (.waiting id uniqueId))
  | .receive, .waiting id uniqueId =>
      match s.inbox c with
      | some outcome => some (s.setCall c (.returned outcome))
      | none =>
          -- the sender is gone without an outcome
          if (s.pending id).lookup uniqueId = some c then none
          else some (s.setCall c (.returned (.error (.transport
            ("connection to '" ++ call.cpId ++ "' closed while awaiting CALLRESULT")))))
  | .timeOut, .waiting id uniqueId =>
      some ((s.settle id uniqueId (.error (.timeout call.action))).setCall c
        (.returned (.error (.timeout (call.action ++ " call to " ++ call.cpId)))))
  | _, _ => none

inductive SweepAction
  | visit (id : Nat) (now : DateTime)
  | remove
  | report

/-- A step of `cleanup_idle_connections`: it visits the connections, then removes and reports those
it found idle. -/
def sweepStep (timeoutSecs : Nat) (s : ServerState) (k : Nat) (action : SweepAction) :
    Option ServerState :=
  match action, s.sweeps k with
  | .visit id now, .collecting ids =>
      match s.connections.lookup id with
      | none => none
      | some info =>
          -- an iteration comes to a connection once
          if id ∈ ids then none
          else some (if info.isIdle now timeoutSecs then s.setSweep k (.collecting (ids ++ [id])) else s)
  | .remove, .collecting (id :: ids) | .remove, .removing (id :: ids) =>
      some { s.setSweep k (.reporting id ids) with connections := s.connections.erase id }
  | .report, .reporting id ids =>
      some ((s.setSweep k (.removing ids)).emit (.disconnected id "Idle timeout"))
  | _, _ => none

theorem sweepStep_frame {timeoutSecs : Nat} {s t : ServerState} {k : Nat} {action : SweepAction}
    (stepped : sweepStep timeoutSecs s k action = some t) :
    ∃ connections sweeps events, t = { s with connections, sweeps, events } := by
  revert stepped
  fun_cases sweepStep timeoutSecs s k action <;> rintro ⟨⟩
  case case3 id now ids collecting info found fresh =>
    by_cases idle : info.isIdle now timeoutSecs
    · exact ⟨_, _, _, by rw [if_pos idle]; rfl⟩
    · exact ⟨_, _, _, by rw [if_neg idle]⟩
  all_goals exact ⟨_, _, _, rfl⟩

theorem callStep_frame {s t : ServerState} {c : Nat} {action : CallAction}
    (stepped : callStep s c action = some t) :
    ∃ calls pending inbox, t = { s with calls, pending, inbox } := by
  revert stepped
  fun_cases callStep s c action <;> rintro ⟨⟩
  case case3 call id uniqueId registered finished =>
    obtain ⟨pending, inbox, framed⟩ :=
      s.settle_frame id uniqueId (.error (.cpNotConnected call.cpId))
    exact ⟨_, pending, inbox, by rw [framed]; rfl⟩
  case case8 call id uniqueId waiting =>
    obtain ⟨pending, inbox, framed⟩ := s.settle_frame id uniqueId (.error (.timeout call.action))
    exact ⟨_, pending, inbox, by rw [framed]; rfl⟩
  all_goals exact ⟨_, _, _, rfl⟩

inductive Action
  | session (id : Nat) (action : SessionAction)
  | call (c : Nat) (action : CallAction)
  | sweep (k : Nat) (action : SweepAction)

def step (timeoutSecs : Nat) (s : ServerState) : Action → Option ServerState
  | .session id action => sessionStep s id action
  | .call c action => callStep s c action
  | .sweep k action => sweepStep timeoutSecs s k action

end Ocpp.Transport
