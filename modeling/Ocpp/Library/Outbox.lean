import Mathlib.Data.List.Basic

/-!
# Outboxes

Jobs that wait in a queue, and a worker that takes one after the other and sends its messages. What a job has to send
may depend on the jobs taken before it. A worker that stops loses the messages that are left and the jobs that wait.
-/

namespace Ocpp.Library

structure Outbox (J M : Type*) where
  taken : List J
  waiting : List J
  left : List M
  sent : List M
  running : Bool

namespace Outbox

variable {J M : Type*} (messages : List J → J → List M)

def new : Outbox J M :=
  ⟨[], [], [], [], true⟩

def enqueue (outbox : Outbox J M) (job : J) : Outbox J M :=
  if outbox.running then { outbox with waiting := outbox.waiting ++ [job] } else outbox

def take (outbox : Outbox J M) : Option (Outbox J M) :=
  match outbox.left, outbox.waiting with
  | [], job :: rest =>
      some { outbox with taken := outbox.taken ++ [job], waiting := rest, left := messages outbox.taken job }
  | _, _ => none

def send (outbox : Outbox J M) : Option (Outbox J M) :=
  match outbox.left with
  | message :: rest => some { outbox with left := rest, sent := outbox.sent ++ [message] }
  | [] => none

def stop (outbox : Outbox J M) : Outbox J M :=
  { outbox with waiting := [], left := [], running := false }

/-- What is sent for the jobs, one after the other. -/
def replay (before : List J) : List J → List M
  | [] => []
  | job :: rest => messages before job ++ replay (before ++ [job]) rest

theorem replay_append (before jobs more : List J) :
    replay messages before (jobs ++ more) = replay messages before jobs ++ replay messages (before ++ jobs) more := by
  induction jobs generalizing before with
  | nil => simp [replay]
  | cons job rest ih => simp [replay, ih]

theorem replay_stateless (page : J → List M) (before jobs : List J) :
    replay (fun _ => page) before jobs = jobs.flatMap page := by
  induction jobs generalizing before with
  | nil => rfl
  | cons job rest ih => rw [replay, ih, List.flatMap_cons]

/-- The messages of the jobs that were taken are sent or left, and the other jobs that were queued wait, but for what
is lost when the worker stops. -/
structure Follows (queued : List J) (outbox : Outbox J M) : Prop where
  taken : ∃ lost, queued = outbox.taken ++ outbox.waiting ++ lost ∧ (outbox.running → lost = [])
  sent : ∃ lost, replay messages [] outbox.taken = outbox.sent ++ outbox.left ++ lost ∧ (outbox.running → lost = [])

variable {messages}

theorem follows_new : Follows messages [] new :=
  ⟨⟨[], rfl, fun _ => rfl⟩, ⟨[], rfl, fun _ => rfl⟩⟩

namespace Follows

variable {queued : List J} {outbox outbox' : Outbox J M} (follows : Follows messages queued outbox)
include follows

theorem taken_eq (running : outbox.running) : queued = outbox.taken ++ outbox.waiting := by
  obtain ⟨lost, split, kept⟩ := follows.taken
  rw [split, kept running, List.append_nil]

theorem sent_eq (running : outbox.running) : replay messages [] outbox.taken = outbox.sent ++ outbox.left := by
  obtain ⟨lost, replayed, kept⟩ := follows.sent
  rw [replayed, kept running, List.append_nil]

theorem enqueue (running : outbox.running) (job : J) : Follows messages (queued ++ [job]) (outbox.enqueue job) := by
  rw [Outbox.enqueue, if_pos running]
  refine ⟨⟨[], ?_, fun _ => rfl⟩, follows.sent⟩
  rw [follows.taken_eq running]
  simp

theorem take (running : outbox.running) (took : outbox.take messages = some outbox') :
    Follows messages queued outbox' := by
  have split := follows.taken_eq running
  have replayed := follows.sent_eq running
  unfold Outbox.take at took
  split at took
  next job rest done waiting =>
    obtain rfl := Option.some.inj took
    rw [done, List.append_nil] at replayed
    constructor
    · refine ⟨[], ?_, fun _ => rfl⟩
      rw [split, waiting]
      simp
    · refine ⟨[], ?_, fun _ => rfl⟩
      rw [replay_append, replayed]
      simp [replay]
  next => cases took

theorem send (sent : outbox.send = some outbox') : Follows messages queued outbox' := by
  obtain ⟨lost, replayed, kept⟩ := follows.sent
  unfold Outbox.send at sent
  split at sent
  next message rest left =>
    obtain rfl := Option.some.inj sent
    refine ⟨follows.taken, lost, ?_, kept⟩
    rw [replayed, left]
    simp
  next => cases sent

theorem stop : Follows messages queued outbox.stop := by
  obtain ⟨lost, split, -⟩ := follows.taken
  obtain ⟨cut, replayed, -⟩ := follows.sent
  constructor
  · refine ⟨outbox.waiting ++ lost, ?_, fun running => absurd running (by simp [Outbox.stop])⟩
    simp [split, Outbox.stop]
  · refine ⟨outbox.left ++ cut, ?_, fun running => absurd running (by simp [Outbox.stop])⟩
    simp [replayed, Outbox.stop]

/-- What is sent is a first part of what is sent for all jobs. -/
theorem sent_initial : outbox.sent <+: replay messages [] queued := by
  obtain ⟨lost, split, -⟩ := follows.taken
  obtain ⟨cut, replayed, -⟩ := follows.sent
  rw [split, List.append_assoc, replay_append, replayed, List.append_assoc, List.append_assoc]
  exact List.prefix_append _ _

/-- A worker that runs and has nothing left to do has sent the messages of all jobs. -/
theorem drained (running : outbox.running) (waiting : outbox.waiting = []) (left : outbox.left = []) :
    outbox.sent = replay messages [] queued := by
  rw [follows.taken_eq running, waiting, List.append_nil, follows.sent_eq running, left, List.append_nil]

end Follows

end Outbox

end Ocpp.Library
