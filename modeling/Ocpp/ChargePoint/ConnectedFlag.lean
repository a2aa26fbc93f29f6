import Mathlib.Logic.Function.Basic
import Mathlib.Data.Set.Basic
import Ocpp.Library.Transition

/-!
# The connection flag

`is_connected` of `lib.rs`, which `establish_session` sets after it has stored its client, `disconnect` clears after
it has taken the client out, and the handler of a `Disconnected` event clears at the end of a client's task. The slot
of the client and the flag have locks of their own, and the handler does not ask which client has ended.
-/

namespace Ocpp.ChargePoint.ConnectedFlag
open Library

/-- Where the combined task of a client is: in its loop, or out of it with the cleanup done so far. -/
inductive Phase
  | absent
  | running
  | left
  | cancelled
  | marked
  | over
  deriving DecidableEq

/-- Where the `establish_session` that makes a client is. -/
inductive Session
  | idle
  | opened
  | stored
  | over
  deriving DecidableEq

structure WebSocketClient where
  phase : Phase
  session : Session
  aborted : Bool
  deriving DecidableEq

def WebSocketClient.new : WebSocketClient :=
  ⟨.absent, .idle, false⟩

inductive Disconnect
  | idle
  | taken
  | over
  deriving DecidableEq

structure Connection where
  clients : Nat → WebSocketClient
  disconnects : Nat → Disconnect
  client : Option Nat
  isConnected : Bool

namespace Connection

def new : Connection where
  clients _ := .new
  disconnects _ := .idle
  client := none
  isConnected := false

variable (s : Connection)

def setPhase (k : Nat) (phase : Phase) : Connection :=
  { s with clients := Function.update s.clients k { s.clients k with phase } }

def setSession (k : Nat) (session : Session) : Connection :=
  { s with clients := Function.update s.clients k { s.clients k with session } }

def abort (k : Nat) : Connection :=
  { s with clients := Function.update s.clients k { s.clients k with aborted := true } }

def setDisconnect (d : Nat) (disconnect : Disconnect) : Connection :=
  { s with disconnects := Function.update s.disconnects d disconnect }

def setClient (client : Option Nat) : Connection :=
  { s with client }

def setConnected (isConnected : Bool) : Connection :=
  { s with isConnected }

end Connection

/-! ## Steps -/

inductive Action
  /-- `WebSocketClient::new`, which spawns the task. -/
  | connect (k : Nat)
  | store (k : Nat)
  | raise (k : Nat)
  /-- `disconnect` takes the client and closes it, under the lock of the slot. -/
  | take (d : Nat)
  | lower (d : Nat)
  /-- The socket closes or fails, or the channel has no sender left. -/
  | leaveLoop (k : Nat)
  | cancelAll (k : Nat)
  | markClosed (k : Nat)
  | handleDisconnected (k : Nat)
  /-- The runtime drops an aborted task, which may have run on to the end of its poll. -/
  | drop (k : Nat)

def step (s : Connection) : Action → Option Connection
  | .connect k =>
      if s.clients k = .new then
        some { s with clients := Function.update s.clients k ⟨.running, .opened, false⟩ }
      else none
  | .store k =>
      if (s.clients k).session = .opened then some ((s.setSession k .stored).setClient (some k)) else none
  | .raise k =>
      if (s.clients k).session = .stored then some ((s.setSession k .over).setConnected true) else none
  | .take d =>
      if s.disconnects d = .idle then
        match s.client with
        | some k => some (((s.abort k).setDisconnect d .taken).setClient none)
        | none => some (s.setDisconnect d .taken)
      else none
  | .lower d =>
      if s.disconnects d = .taken then some ((s.setDisconnect d .over).setConnected false) else none
  | .leaveLoop k => if (s.clients k).phase = .running then some (s.setPhase k .left) else none
  | .cancelAll k => if (s.clients k).phase = .left then some (s.setPhase k .cancelled) else none
  | .markClosed k => if (s.clients k).phase = .cancelled then some (s.setPhase k .marked) else none
  | .handleDisconnected k =>
      if (s.clients k).phase = .marked then some ((s.setPhase k .over).setConnected false) else none
  | .drop k => if (s.clients k).aborted then some (s.setPhase k .over) else none

/-! ## Writers of the flag -/

inductive Writer
  | session (k : Nat)
  | disconnect (d : Nat)
  | task (k : Nat)
  deriving DecidableEq

def Phase.exited : Phase → Bool
  | .left | .cancelled | .marked => true
  | _ => false

/-- The writer is past its step that the flag is to follow, and has not written it. -/
def Pending (s : Connection) : Writer → Prop
  | .session k => (s.clients k).session = .stored
  | .disconnect d => s.disconnects d = .taken
  | .task k => (s.clients k).phase.exited

def Outstanding (s : Connection) (writer : Writer) : Prop :=
  ∃ other, other ≠ writer ∧ Pending s other

/-- A client is stored and its task is running. -/
def Holding (s : Connection) : Prop :=
  ∃ k, s.client = some k ∧ (s.clients k).phase = .running

/-- No `establish_session` or `disconnect` is before its write of the flag, and no task in its cleanup. -/
def Quiet (s : Connection) : Prop :=
  ∀ writer, ¬Pending s writer

def Truthful (s : Connection) : Prop :=
  Quiet s → (s.isConnected = true ↔ Holding s)

/-- A write of the flag that leaves no other one outstanding is made while it is true, and an aborted task does not
take the last one with it while the flag is wrong. -/
def Timely (s : Connection) : Action → Prop
  | .raise k => Holding s ∨ Outstanding s (.session k)
  | .lower d => ¬Holding s ∨ Outstanding s (.disconnect d)
  | .handleDisconnected k => ¬Holding s ∨ Outstanding s (.task k)
  | .drop k => (s.isConnected = true ↔ Holding s) ∨ Outstanding s (.task k)
  | _ => True

def Action.writer : Action → Option Writer
  | .raise k => some (.session k)
  | .lower d => some (.disconnect d)
  | .handleDisconnected k | .drop k => some (.task k)
  | _ => none

/-! ## What an update leaves outstanding -/

section Frame

variable (s : Connection) (k : Nat) (writer : Writer)

@[simp] theorem pending_setPhase (phase : Phase) :
    Pending (s.setPhase k phase) writer ↔ if writer = .task k then phase.exited = true else Pending s writer := by
  cases writer with
  | session j | task j => by_cases same : j = k <;> simp [Pending, Connection.setPhase, same]
  | disconnect d => simp [Pending, Connection.setPhase]

@[simp] theorem pending_setSession (session : Session) :
    Pending (s.setSession k session) writer ↔
      if writer = .session k then session = .stored else Pending s writer := by
  cases writer with
  | session j | task j => by_cases same : j = k <;> simp [Pending, Connection.setSession, same]
  | disconnect d => simp [Pending, Connection.setSession]

@[simp] theorem pending_abort : Pending (s.abort k) writer ↔ Pending s writer := by
  cases writer with
  | session j | task j => by_cases same : j = k <;> simp [Pending, Connection.abort, same]
  | disconnect d => simp [Pending, Connection.abort]

@[simp] theorem pending_setDisconnect (d : Nat) (disconnect : Disconnect) :
    Pending (s.setDisconnect d disconnect) writer ↔
      if writer = .disconnect d then disconnect = .taken else Pending s writer := by
  cases writer with
  | session j | task j => simp [Pending, Connection.setDisconnect]
  | disconnect j => by_cases same : j = d <;> simp [Pending, Connection.setDisconnect, same]

@[simp] theorem pending_setClient (client : Option Nat) :
    Pending (s.setClient client) writer ↔ Pending s writer := by
  cases writer <;> rfl

@[simp] theorem pending_setConnected (isConnected : Bool) :
    Pending (s.setConnected isConnected) writer ↔ Pending s writer := by
  cases writer <;> rfl

end Frame

section Holding

variable (s : Connection) (k : Nat)

@[simp] theorem holding_setSession (session : Session) : Holding (s.setSession k session) ↔ Holding s := by
  apply exists_congr
  intro j
  by_cases same : j = k <;> simp [Connection.setSession, same]

@[simp] theorem holding_setDisconnect (d : Nat) (disconnect : Disconnect) :
    Holding (s.setDisconnect d disconnect) ↔ Holding s := Iff.rfl

@[simp] theorem holding_setConnected (isConnected : Bool) : Holding (s.setConnected isConnected) ↔ Holding s :=
  Iff.rfl

theorem holding_setPhase {phase : Phase}
    (same : s.client = some k → ((s.clients k).phase = .running ↔ phase = .running)) :
    Holding (s.setPhase k phase) ↔ Holding s := by
  apply exists_congr
  intro j
  apply and_congr_right
  intro stored
  have stored : s.client = some j := stored
  by_cases own : j = k
  · subst own
    simp [Connection.setPhase, same stored]
  · simp [Connection.setPhase, own]

end Holding

/-! ## One step -/

def Session.isStored : Session → Bool
  | .stored | .over => true
  | _ => false

/-- A client in the slot has been stored, and is out of the slot for good once its task is aborted. -/
structure Bookkept (s : Connection) : Prop where
  slot : ∀ k, s.client = some k → (s.clients k).session.isStored ∧ (s.clients k).aborted = false
  aborted : ∀ k, (s.clients k).aborted → (s.clients k).session.isStored

section Step

variable {s t : Connection} {action : Action}

variable (stepped : step s action = some t)
include stepped

theorem pending_kept {writer : Writer} (other : action.writer ≠ some writer) (pending : Pending s writer) :
    Pending t writer := by
  cases action with
  | connect k =>
      obtain ⟨fresh, equal⟩ := Option.ite_none_right_eq_some.mp stepped
      cases equal
      cases writer with
      | session j | task j => by_cases same : j = k <;> simp_all [Pending, WebSocketClient.new, Phase.exited]
      | disconnect d => exact pending
  | store k =>
      obtain ⟨-, equal⟩ := Option.ite_none_right_eq_some.mp stepped
      cases equal
      simp [pending]
  | take d =>
      obtain ⟨-, equal⟩ := Option.ite_none_right_eq_some.mp stepped
      split at equal <;> cases equal <;> simp [pending]
  | leaveLoop k | cancelAll k | markClosed k =>
      obtain ⟨-, equal⟩ := Option.ite_none_right_eq_some.mp stepped
      cases equal
      simp [pending, Phase.exited]
  | raise k | lower k | handleDisconnected k | drop k =>
      obtain ⟨-, equal⟩ := Option.ite_none_right_eq_some.mp stepped
      cases equal
      have distinct : ¬writer = _ := fun same => other (congrArg some same.symm)
      simp [pending, distinct]

/-- A step that writes the flag, or drops a writer, changes nothing else that the truth depends on. -/
theorem written_frame (kept : Bookkept s) {writer : Writer} (writes : action.writer = some writer) :
    (Holding t ↔ Holding s) ∧ ∀ other, Pending t other ↔ other ≠ writer ∧ Pending s other := by
  cases action with
  | raise k | lower k =>
      obtain ⟨-, equal⟩ := Option.ite_none_right_eq_some.mp stepped
      cases equal
      cases writes
      simp
  | handleDisconnected k =>
      obtain ⟨marked, equal⟩ := Option.ite_none_right_eq_some.mp stepped
      cases equal
      cases writes
      refine ⟨?_, by simp [Phase.exited]⟩
      rw [holding_setConnected]
      apply holding_setPhase
      simp [marked]
  | drop k =>
      obtain ⟨aborted, equal⟩ := Option.ite_none_right_eq_some.mp stepped
      cases equal
      cases writes
      refine ⟨holding_setPhase s k ?_, by simp [Phase.exited]⟩
      intro stored
      rw [(kept.slot k stored).2] at aborted
      cases aborted
  | connect | store | take | leaveLoop | cancelAll | markClosed => cases writes

/-- The other steps leave a write outstanding, or the truth and the flag as they were. -/
theorem unwritten_frame (kept : Bookkept s) (writes : action.writer = none) :
    (∃ writer, Pending t writer) ∨ (Holding t ↔ Holding s) ∧ t.isConnected = s.isConnected := by
  cases action with
  | connect k =>
      obtain ⟨fresh, equal⟩ := Option.ite_none_right_eq_some.mp stepped
      cases equal
      refine Or.inr ⟨exists_congr fun j => and_congr_right fun stored => ?_, rfl⟩
      have other : j ≠ k := by
        rintro rfl
        have session := (kept.slot j stored).1
        simp [fresh, WebSocketClient.new, Session.isStored] at session
      simp [other]
  | store k =>
      obtain ⟨-, equal⟩ := Option.ite_none_right_eq_some.mp stepped
      cases equal
      exact Or.inl ⟨.session k, by simp⟩
  | take d =>
      obtain ⟨-, equal⟩ := Option.ite_none_right_eq_some.mp stepped
      refine Or.inl ⟨.disconnect d, ?_⟩
      split at equal <;> cases equal <;> simp
  | leaveLoop k | cancelAll k | markClosed k =>
      obtain ⟨-, equal⟩ := Option.ite_none_right_eq_some.mp stepped
      cases equal
      exact Or.inl ⟨.task k, by simp [Phase.exited]⟩
  | raise | lower | handleDisconnected | drop => cases writes

omit stepped in
theorem timely_iff {writer : Writer} (writes : action.writer = some writer) (stepped : step s action = some t) :
    Timely s action ↔ (t.isConnected = true ↔ Holding s) ∨ Outstanding s writer := by
  cases action with
  | raise k | lower k | handleDisconnected k | drop k =>
      obtain ⟨-, equal⟩ := Option.ite_none_right_eq_some.mp stepped
      cases equal
      cases writes
      simp [Timely, Connection.setConnected, Connection.setPhase]
  | connect | store | take | leaveLoop | cancelAll | markClosed => cases writes

end Step

theorem bookkept_new : Bookkept .new := by
  constructor <;> simp [Connection.new, WebSocketClient.new]

theorem Bookkept.mono {s t : Connection} (kept : Bookkept s) (client : t.client = s.client)
    (aborted : ∀ k, (t.clients k).aborted = (s.clients k).aborted)
    (session : ∀ k, (s.clients k).session.isStored → (t.clients k).session.isStored) : Bookkept t := by
  constructor
  · intro k slot
    rw [client] at slot
    obtain ⟨stored, unaborted⟩ := kept.slot k slot
    exact ⟨session k stored, (aborted k).trans unaborted⟩
  · intro k killed
    rw [aborted k] at killed
    exact session k (kept.aborted k killed)

theorem Bookkept.step {s t : Connection} {action : Action} (kept : Bookkept s) (stepped : step s action = some t) :
    Bookkept t := by
  cases action with
  | connect k =>
      obtain ⟨fresh, equal⟩ := Option.ite_none_right_eq_some.mp stepped
      cases equal
      apply kept.mono
      · rfl
      all_goals
        intro j
        by_cases same : j = k <;> simp [same, fresh, WebSocketClient.new, Session.isStored]
  | store k =>
      obtain ⟨opened, equal⟩ := Option.ite_none_right_eq_some.mp stepped
      cases equal
      have unaborted : (s.clients k).aborted = false := by
        by_contra aborted
        have stored := kept.aborted k (Bool.not_eq_false _ ▸ aborted)
        simp [opened, Session.isStored] at stored
      constructor
      · rintro j slot
        cases slot
        simp [Connection.setSession, Connection.setClient, Session.isStored, unaborted]
      · intro j aborted
        by_cases same : j = k
        · simp [Connection.setSession, Connection.setClient, Session.isStored, same]
        · simp only [Connection.setSession, Connection.setClient, Function.update_of_ne same] at aborted ⊢
          exact kept.aborted j aborted
  | take d =>
      obtain ⟨-, equal⟩ := Option.ite_none_right_eq_some.mp stepped
      split at equal
      · rename_i k stored
        cases equal
        constructor
        · intro j slot
          cases slot
        intro j aborted
        by_cases same : j = k
        · simpa [Connection.abort, Connection.setDisconnect, Connection.setClient, same] using (kept.slot k stored).1
        · simp only [Connection.abort, Connection.setDisconnect, Connection.setClient,
            Function.update_of_ne same] at aborted ⊢
          exact kept.aborted j aborted
      · cases equal
        exact ⟨kept.slot, kept.aborted⟩
  | lower d =>
      obtain ⟨-, equal⟩ := Option.ite_none_right_eq_some.mp stepped
      cases equal
      exact ⟨kept.slot, kept.aborted⟩
  | raise k | leaveLoop k | cancelAll k | markClosed k | handleDisconnected k | drop k =>
      obtain ⟨-, equal⟩ := Option.ite_none_right_eq_some.mp stepped
      cases equal
      apply kept.mono
      · rfl
      all_goals
        intro j
        by_cases same : j = k <;>
          simp [Connection.setSession, Connection.setPhase, Connection.setConnected, same, Session.isStored]

theorem truthful_step_iff {s t : Connection} {action : Action} (kept : Bookkept s) (truthful : Truthful s)
    (stepped : step s action = some t) : Truthful t ↔ Timely s action := by
  cases writes : action.writer with
  | none =>
      have timely : Timely s action := by cases action <;> trivial
      refine iff_of_true ?_ timely
      intro quiet
      rcases unwritten_frame stepped kept writes with ⟨writer, pending⟩ | ⟨holding, flag⟩
      · exact absurd pending (quiet writer)
      · rw [flag, holding]
        apply truthful
        intro writer pending
        exact quiet writer (pending_kept stepped (by simp [writes]) pending)
  | some writer =>
      obtain ⟨holding, outstanding⟩ := written_frame stepped kept writes
      rw [timely_iff writes stepped, ← holding]
      constructor
      · intro truthful
        by_cases others : Outstanding s writer
        · exact Or.inr others
        · refine Or.inl (truthful fun other pending => others ?_)
          exact ⟨other, (outstanding other).mp pending⟩
      · rintro (flag | ⟨other, distinct, pending⟩) quiet
        · exact flag
        · exact absurd ((outstanding other).mpr ⟨distinct, pending⟩) (quiet other)

/-! ## Whole runs -/

/-- In a run of sessions, disconnects and exits the flag is truthful in every state exactly when every step is
timely. -/
theorem connected_truthful_iff {actions : List Action} {final : Connection}
    (ran : run step .new actions = some final) :
    (∀ before s, before <+: actions → run step .new before = some s → Truthful s) ↔
      Along step Timely .new actions := by
  apply along_iff (fun s action t kept stepped => Bookkept.step kept stepped)
    (fun s action t kept truthful stepped => truthful_step_iff kept truthful stepped) bookkept_new ?_ ran
  intro quiet
  simp [Connection.new, Holding]

def reconnected : List Action :=
  [.connect 0, .store 0, .raise 0, .take 0, .lower 0, .connect 1, .store 1, .raise 1]

theorem reconnected_truthful :
    ∃ s, run step .new reconnected = some s ∧ Holding s ∧
      ∀ before t, before <+: reconnected → run step .new before = some t → Truthful t := by
  refine ⟨_, rfl, ⟨1, rfl, rfl⟩, (connected_truthful_iff rfl).mpr ?_⟩
  refine .cons trivial rfl (.cons trivial rfl (.cons (Or.inl ⟨0, rfl, rfl⟩) rfl (.cons trivial rfl ?_)))
  refine .cons (Or.inl ?_) rfl (.cons trivial rfl (.cons trivial rfl (.cons (Or.inl ⟨1, rfl, rfl⟩) rfl trivial)))
  rintro ⟨k, stored, -⟩
  cases stored

def replaced : List Action :=
  [.connect 0, .store 0, .raise 0, .connect 1, .store 1, .raise 1, .leaveLoop 0, .cancelAll 0, .markClosed 0,
    .handleDisconnected 0]

/-- The task of a replaced client ends and clears the flag under its running successor. -/
theorem replaced_untruthful :
    ∃ s, run step .new replaced = some s ∧ Quiet s ∧ Holding s ∧ s.isConnected = false := by
  refine ⟨_, rfl, ?_, ⟨1, rfl, rfl⟩, rfl⟩
  intro writer pending
  cases writer with
  | disconnect d => cases pending
  | session k | task k => obtain _ | _ | k := k <;> cases pending

end Ocpp.ChargePoint.ConnectedFlag
