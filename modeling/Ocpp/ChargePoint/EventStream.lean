import Ocpp.ChargePoint.Numbering

/-!
# The stream of events of a transaction

The `TransactionEvent` frames of a transaction reach the outbound channel in the order of their numbers,
from one Started to at most one Ended, as long as no task overtakes another between claiming its number
and sending its event.
-/

namespace Ocpp.ChargePoint
open Library Library.Program V16j V201

variable (config : Config) (rfc : Rfc3339) (transactionId : Int)

structure StreamWellFormed (events : List TransactionEventRequest) : Prop where
  increasing : events.Pairwise (·.seqNo < ·.seqNo)
  opened : ∀ first ∈ events.head?, first.eventType = .started ∧ first.seqNo = 0
  startedOnce : events.countP (·.eventType = .started) ≤ 1
  endedOnce : events.countP (·.eventType = .ended) ≤ 1
  endedLast : ∀ event ∈ events.dropLast, event.eventType ≠ .ended

theorem StreamWellFormed.nil : StreamWellFormed [] where
  increasing := .nil
  opened := by simp
  startedOnce := by simp
  endedOnce := by simp
  endedLast := by simp

theorem StreamWellFormed.first {event : TransactionEventRequest} (started : event.eventType = .started)
    (zero : event.seqNo = 0) : StreamWellFormed [event] where
  increasing := List.pairwise_singleton _ _
  opened := by simp [started, zero]
  startedOnce := by simp [started]
  endedOnce := by simp [started]
  endedLast := by simp

theorem StreamWellFormed.append {events : List TransactionEventRequest} {event : TransactionEventRequest}
    (wellFormed : StreamWellFormed events) (sent : events ≠ []) (unstarted : event.eventType ≠ .started)
    (unended : ∀ earlier ∈ events, earlier.eventType ≠ .ended)
    (above : ∀ earlier ∈ events, earlier.seqNo < event.seqNo) : StreamWellFormed (events ++ [event]) where
  increasing := by
    rw [List.pairwise_append]
    refine ⟨wellFormed.increasing, List.pairwise_singleton _ _, fun earlier mem later last => ?_⟩
    rw [List.mem_singleton.mp last]
    exact above earlier mem
  opened := by
    rw [List.head?_append_of_ne_nil _ sent]
    exact wellFormed.opened
  startedOnce := by
    simpa [List.countP_append, unstarted] using wellFormed.startedOnce
  endedOnce := by
    have none : events.countP (·.eventType = .ended) = 0 := by simpa using unended
    rw [List.countP_append, none, Nat.zero_add]
    exact List.countP_le_length
  endedLast := by simpa using unended

def sentEvent : Request × Answer → Option TransactionEventRequest
  | (.transactionEvent event, answer) =>
      if event.transactionId = transactionId ∧ answer.Sent then some event else none
  | _ => none

def Station.stream (s : Station) : List TransactionEventRequest :=
  s.calls.filterMap (sentEvent transactionId)

def System.HeldElsewhere (system : System) (task : Nat) (P : TransactionEventRequest → Prop) : Prop :=
  ∃ task' event, task' ≠ task ∧ event.transactionId = transactionId ∧ P event ∧
    system.At (Holds event) task'

/-- An event is sent only while no other task holds one with a smaller number; a number is claimed only
while the counter has not wrapped around and, through a pointer, only while the Ended event is neither
held nor sent; and the id is minted only while no event of it is held or sent. -/
def Op.InOrder (system : System) (task : Nat) : Op → Choice → Prop
  | .call (.transactionEvent event), .answer answer =>
      event.transactionId = transactionId → answer.Sent →
        ¬system.HeldElsewhere transactionId task (·.seqNo < event.seqNo)
  | .claimSeqNo tid, _ => tid = transactionId → 0 ≤ (system.shared.cells transactionId).nextSeqNo ∧
      (∀ event ∈ system.shared.stream transactionId, event.eventType ≠ .ended) ∧
        ¬system.HeldElsewhere transactionId task (·.eventType = .ended)
  | .claimListedSeqNo tid, _ => tid = transactionId →
      0 ≤ (system.shared.cells transactionId).nextSeqNo
  | .mintTransactionId, _ => system.shared.nextV201TransactionId = transactionId →
      system.shared.stream transactionId = [] ∧
        ¬system.HeldElsewhere transactionId task fun _ => True
  | _, _ => True

def InOrder (system : System) : Action → Prop
  | .advance task choice => ∀ call op, system.pending task = some (call, op) →
      op.InOrder transactionId system task choice
  | _ => True

theorem wrappingSucc_lt (n : Int) : wrappingSucc n < 2147483648 := by
  have := BitVec.toInt_lt (x := BitVec.ofInt 32 (n + 1))
  simpa [wrappingSucc] using this

theorem wrappingSucc_cases {n : Int} (bounded : n < 2147483648) (counting : 0 ≤ n) :
    wrappingSucc n = n + 1 ∨ wrappingSucc n < 0 := by
  rw [wrappingSucc, BitVec.toInt_ofInt, Int.bmod_def]
  split <;> omega

/-! ## The abstract stream -/

/-- The events sent so far, whether the session is listed, its counter, and of every task its phase and
the events it holds. -/
structure Stream where
  events : List TransactionEventRequest
  listed : Prop
  next : Int
  phase : Nat → Phase
  holds : Nat → TransactionEventRequest → Prop
  maySend : ∀ {task event}, holds task event → (phase task).MaySend event

namespace Stream

structure Moves (s t : Stream) (task : Nat) (phase : Phase) : Prop where
  own : t.phase task = phase
  others : ∀ {task'}, task' ≠ task → t.phase task' = s.phase task'
  held : ∀ {task' event}, task' ≠ task → t.holds task' event → s.holds task' event

structure Unchanged (s t : Stream) : Prop where
  events : t.events = s.events
  listed : t.listed ↔ s.listed
  next : t.next = s.next

def Claimed (s : Stream) (event : TransactionEventRequest) : Prop :=
  event ∈ s.events ∨ ∃ task, s.holds task event

/-- A number is claimed for a listed session, through a pointer to it, or by the task that removed it. -/
inductive MayClaim (s : Stream) (task : Nat) : Bool → Prop
  | listed (here : s.listed) : MayClaim s task false
  | pointed (points : s.phase task = .pointing)
      (unended : ∀ event, s.Claimed event → event.eventType ≠ .ended) : MayClaim s task false
  | removed (closing : s.phase task = .closing) : MayClaim s task true

inductive Step (s t : Stream) : Prop
  | rest (task : Nat) (same : s.Unchanged t) (moves : s.Moves t task (s.phase task))
      (held : ∀ event, t.holds task event → s.holds task event)
  | leave (task : Nat) (same : s.Unchanged t) (moves : s.Moves t task .outside)
  | mint (task : Nat) (same : s.Unchanged t) (moves : s.Moves t task .minted) (unused : s.events = [])
      (unheld : ∀ task' event, task' ≠ task → ¬s.holds task' event)
  | start (task : Nat) (event : TransactionEventRequest) (phase : Phase) (moves : s.Moves t task phase)
      (held : s.holds task event) (minted : s.phase task = .minted)
      (past : phase = .started ∨ phase = .outside) (sent : t.events = s.events ++ [event])
      (listing : t.listed ↔ s.listed) (counter : t.next = s.next)
  | list (task : Nat) (moves : s.Moves t task .outside) (starting : s.phase task = .started)
      (unsent : t.events = s.events) (first : t.next = 1)
  | point (task : Nat) (same : s.Unchanged t) (moves : s.Moves t task .pointing) (listed : s.listed)
  | close (task : Nat) (moves : s.Moves t task .closing) (listed : s.listed) (unlisted : ¬t.listed)
      (unsent : t.events = s.events) (counter : t.next = s.next)
  | claim (task : Nat) (last : Bool) (moves : s.Moves t task (.numbered s.next last))
      (pointer : s.MayClaim task last) (counting : 0 ≤ s.next) (counter : t.next = wrappingSucc s.next)
      (unsent : t.events = s.events) (listing : t.listed ↔ s.listed)
  | send (task : Nat) (event : TransactionEventRequest) (moves : s.Moves t task .outside)
      (held : s.holds task event) (numbered : s.phase task ≠ .minted)
      (inOrder : ∀ task' event', task' ≠ task → s.holds task' event' → event.seqNo ≤ event'.seqNo)
      (sent : t.events = s.events ++ [event]) (listing : t.listed ↔ s.listed)
      (counter : t.next = s.next)

structure Unopened (s : Stream) : Prop where
  unsent : s.events = []
  unlisted : ¬s.listed
  waiting : ∀ task, s.phase task = .outside ∨ s.phase task = .minted
  lone : ∀ {task task' event event'}, s.holds task event → s.holds task' event' → task = task'

structure Opening (s : Stream) : Prop where
  sent : ∃ event, s.events = [event] ∧ event.eventType = .started ∧ event.seqNo = 0
  unlisted : ¬s.listed
  waiting : ∀ task, s.phase task = .outside ∨ s.phase task = .minted ∨ s.phase task = .started
  lone : ∀ {task task'}, s.phase task = .started → s.phase task' = .started → task = task'
  unheld : ∀ task event, ¬s.holds task event

/-- A number claimed is below the counter, held numbers are above those sent, and the Ended event has the
last number claimed. -/
structure Opened (s : Stream) : Prop where
  sent : s.events ≠ []
  unstarted : ∀ task, s.phase task ≠ .started
  unminted : ∀ {task event}, s.holds task event → s.phase task ≠ .minted
  listedCounter : s.listed → 0 ≤ s.next → ∀ event, s.Claimed event → event.seqNo < s.next
  pointedCounter : ∀ {task}, s.phase task = .pointing ∨ s.phase task = .closing → 0 ≤ s.next →
    ∀ event, s.Claimed event → event.seqNo < s.next
  unsent : ∀ {task event}, s.holds task event → ∀ sent ∈ s.events, sent.seqNo < event.seqNo
  distinct : ∀ {task task' event event'}, s.holds task event → s.holds task' event' →
    event.seqNo = event'.seqNo → task = task'
  closer : ∀ {task}, s.phase task = .closing → ¬s.listed ∧
    (∀ task', s.phase task' = .closing → task' = task) ∧
    ∀ event, s.Claimed event → event.eventType ≠ .ended
  ended : ∀ {event}, s.Claimed event → event.eventType = .ended → ¬s.listed ∧
    ∀ event', s.Claimed event' → event'.seqNo ≤ event.seqNo

structure Ordered (s : Stream) : Prop where
  bounded : s.next < 2147483648
  wellFormed : StreamWellFormed s.events
  stage : s.Unopened ∨ s.Opening ∨ s.Opened

variable {s t : Stream} {task : Nat}

theorem Moves.claimed_or {phase : Phase} (moves : s.Moves t task phase) (unsent : t.events = s.events)
    {event : TransactionEventRequest} (claimed : t.Claimed event) :
    s.Claimed event ∨ t.holds task event := by
  rcases claimed with sent | ⟨task', holds⟩
  · exact Or.inl (Or.inl (unsent ▸ sent))
  · by_cases own : task' = task
    · exact Or.inr (own ▸ holds)
    · exact Or.inl (Or.inr ⟨task', moves.held own holds⟩)

theorem Moves.claimed {phase : Phase} (moves : s.Moves t task phase) (unsent : t.events = s.events)
    (held : ∀ event, t.holds task event → s.holds task event) {event : TransactionEventRequest}
    (claimed : t.Claimed event) : s.Claimed event := by
  rcases moves.claimed_or unsent claimed with before | holds
  · exact before
  · exact Or.inr ⟨task, held event holds⟩

theorem Moves.before {phase phase' : Phase} (moves : s.Moves t task phase) {task' : Nat}
    (here : t.phase task' = phase') (other : phase' ≠ phase) :
    task' ≠ task ∧ s.phase task' = phase' := by
  by_cases own : task' = task
  · exact absurd (here.symm.trans (own ▸ moves.own)) other
  · exact ⟨own, moves.others own ▸ here⟩

theorem Moves.numbered {seqNo : Int} {last : Bool} (moves : s.Moves t task (.numbered seqNo last))
    {event : TransactionEventRequest} (held : t.holds task event) :
    event.seqNo = seqNo ∧ event.eventType = if last then .ended else .updated := by
  have maySend := t.maySend held
  rwa [moves.own] at maySend

theorem Moves.holds {phase : Phase} (moves : s.Moves t task phase)
    (own : ∀ event, t.holds task event → s.holds task event) {task' : Nat}
    {event : TransactionEventRequest} (holds : t.holds task' event) : s.holds task' event := by
  by_cases same : task' = task
  · exact same ▸ own event (same ▸ holds)
  · exact moves.held same holds

theorem Moves.unheld {phase : Phase} (moves : s.Moves t task phase)
    (silent : ∀ event, ¬phase.MaySend event) (event : TransactionEventRequest) :
    ¬t.holds task event :=
  fun held => silent event (moves.own ▸ t.maySend held)

/-- Every task is where it was, or has left, or points to the listed session. -/
def Settles (s t : Stream) : Prop :=
  ∀ task, t.phase task = s.phase task ∨ t.phase task = .outside ∨ t.phase task = .pointing ∧ s.listed

theorem Moves.settles {phase : Phase} (moves : s.Moves t task phase)
    (reached : phase = s.phase task ∨ phase = .outside ∨ phase = .pointing ∧ s.listed) :
    s.Settles t := by
  intro task'
  by_cases own : task' = task
  · rw [own, moves.own]
    exact reached
  · exact Or.inl (moves.others own)

theorem Settles.before (settles : s.Settles t) {phase : Phase} (here : t.phase task = phase)
    (active : phase ≠ .outside ∧ phase ≠ .pointing) : s.phase task = phase := by
  rcases settles task with stays | left | ⟨points, -⟩
  · exact stays ▸ here
  · exact absurd (here.symm.trans left) active.1
  · exact absurd (here.symm.trans points) active.2

theorem Settles.unlisted (settles : s.Settles t) (unlisted : ¬s.listed) (task : Nat) :
    t.phase task = s.phase task ∨ t.phase task = .outside :=
  (settles task).imp_right fun moved => moved.resolve_right fun points => unlisted points.2

theorem Unopened.settled (stage : s.Unopened) (same : s.Unchanged t) (settles : s.Settles t)
    (holds : ∀ {task event}, t.holds task event → s.holds task event) : t.Unopened where
  unsent := same.events.trans stage.unsent
  unlisted := fun listed => stage.unlisted (same.listed.mp listed)
  waiting task := by
    rcases settles.unlisted stage.unlisted task with stays | left
    · exact stays ▸ stage.waiting task
    · exact Or.inl left
  lone held held' := stage.lone (holds held) (holds held')

theorem Opening.settled (stage : s.Opening) (same : s.Unchanged t) (settles : s.Settles t)
    (holds : ∀ {task event}, t.holds task event → s.holds task event) : t.Opening where
  sent := same.events ▸ stage.sent
  unlisted := fun listed => stage.unlisted (same.listed.mp listed)
  waiting task := by
    rcases settles.unlisted stage.unlisted task with stays | left
    · exact stays ▸ stage.waiting task
    · exact Or.inl left
  lone starting starting' :=
    stage.lone (settles.before starting (by simp)) (settles.before starting' (by simp))
  unheld task event held := stage.unheld task event (holds held)

theorem Opened.settled (stage : s.Opened) (sent : t.events ≠ []) (settles : s.Settles t)
    (listed : t.listed → s.listed) (counter : t.next = s.next)
    (claimed : ∀ {event}, t.Claimed event → s.Claimed event)
    (holds : ∀ {task event}, t.holds task event → s.holds task event)
    (unsent : ∀ {task event}, t.holds task event → ∀ sent ∈ t.events, sent.seqNo < event.seqNo) :
    t.Opened where
  sent := sent
  unstarted task starting := stage.unstarted task (settles.before starting (by simp))
  unminted held minted := stage.unminted (holds held) (settles.before minted (by simp))
  listedCounter here counting event known :=
    counter ▸ stage.listedCounter (listed here) (counter ▸ counting) event (claimed known)
  pointedCounter {task} pointer counting event known := by
    rw [counter] at counting ⊢
    rcases settles task with stays | left | ⟨-, here⟩
    · exact stage.pointedCounter (stays ▸ pointer) counting event (claimed known)
    · simp [left] at pointer
    · exact stage.listedCounter here counting event (claimed known)
  unsent := unsent
  distinct held held' := stage.distinct (holds held) (holds held')
  closer closing := by
    obtain ⟨unlisted, alone, unended⟩ := stage.closer (settles.before closing (by simp))
    refine ⟨fun here => unlisted (listed here), fun task' closing' => ?_, fun event known => ?_⟩
    · exact alone task' (settles.before closing' (by simp))
    · exact unended event (claimed known)
  ended known ending := by
    obtain ⟨unlisted, greatest⟩ := stage.ended (claimed known) ending
    exact ⟨fun here => unlisted (listed here), fun event' known' => greatest event' (claimed known')⟩

theorem Ordered.settled {phase : Phase} (inv : s.Ordered) (same : s.Unchanged t)
    (moves : s.Moves t task phase)
    (reached : phase = s.phase task ∨ phase = .outside ∨ phase = .pointing ∧ s.listed)
    (held : ∀ event, t.holds task event → s.holds task event) : t.Ordered where
  bounded := same.next ▸ inv.bounded
  wellFormed := same.events ▸ inv.wellFormed
  stage := by
    have settles := moves.settles reached
    rcases inv.stage with stage | stage | stage
    · exact Or.inl (stage.settled same settles (moves.holds held))
    · exact Or.inr (Or.inl (stage.settled same settles (moves.holds held)))
    · refine Or.inr (Or.inr (stage.settled (same.events ▸ stage.sent) settles same.listed.mp same.next
        (moves.claimed same.events held) (moves.holds held) fun holds => ?_))
      exact same.events ▸ stage.unsent (moves.holds held holds)

theorem Ordered.mint (inv : s.Ordered) (same : s.Unchanged t) (moves : s.Moves t task .minted)
    (unused : s.events = []) (unheld : ∀ task' event, task' ≠ task → ¬s.holds task' event) :
    t.Ordered where
  bounded := same.next ▸ inv.bounded
  wellFormed := same.events ▸ inv.wellFormed
  stage := by
    rcases inv.stage with stage | stage | stage
    · refine Or.inl ⟨same.events.trans unused, fun listed => stage.unlisted (same.listed.mp listed), ?_, ?_⟩
      · intro task'
        by_cases own : task' = task
        · exact Or.inr (own ▸ moves.own)
        · exact moves.others own ▸ stage.waiting task'
      · have own : ∀ {task' event}, t.holds task' event → task' = task := by
          intro task' event held
          by_contra other
          exact unheld task' event other (moves.held other held)
        intro task₁ task₂ event₁ event₂ held₁ held₂
        exact (own held₁).trans (own held₂).symm
    · obtain ⟨event, sent, -⟩ := stage.sent
      simp [sent] at unused
    · exact absurd unused stage.sent

theorem Ordered.start {event : TransactionEventRequest} {phase : Phase} (inv : s.Ordered)
    (moves : s.Moves t task phase) (held : s.holds task event) (minted : s.phase task = .minted)
    (past : phase = .started ∨ phase = .outside) (sent : t.events = s.events ++ [event])
    (listing : t.listed ↔ s.listed) (counter : t.next = s.next) : t.Ordered := by
  have first : event.eventType = .started ∧ event.seqNo = 0 := by
    have maySend := s.maySend held
    rwa [minted] at maySend
  have stage : s.Unopened := by
    rcases inv.stage with stage | stage | stage
    · exact stage
    · exact absurd held (stage.unheld task event)
    · exact absurd minted (stage.unminted held)
  have only : t.events = [event] := by rw [sent, stage.unsent, List.nil_append]
  have silent : ∀ event, ¬phase.MaySend event := by
    rcases past with rfl | rfl <;> exact fun _ => id
  refine ⟨counter ▸ inv.bounded, only ▸ StreamWellFormed.first first.1 first.2, Or.inr (Or.inl ?_)⟩
  have waiting : ∀ task', task' ≠ task → t.phase task' = .outside ∨ t.phase task' = .minted :=
    fun task' other => moves.others other ▸ stage.waiting task'
  constructor
  · exact ⟨event, only, first⟩
  · exact fun listed => stage.unlisted (listing.mp listed)
  · intro task'
    by_cases own : task' = task
    · rw [own, moves.own]
      rcases past with rfl | rfl <;> simp
    · exact (waiting task' own).imp_right Or.inl
  · have own : ∀ {task'}, t.phase task' = .started → task' = task := by
      intro task' starting
      by_contra other
      have := waiting task' other
      simp [starting] at this
    intro task₁ task₂ starting₁ starting₂
    exact (own starting₁).trans (own starting₂).symm
  · intro task' event' held'
    by_cases own : task' = task
    · exact moves.unheld silent event' (own ▸ held')
    · exact own (stage.lone (moves.held own held') held)

theorem Ordered.list (inv : s.Ordered) (moves : s.Moves t task .outside)
    (starting : s.phase task = .started) (unsent : t.events = s.events) (first : t.next = 1) :
    t.Ordered := by
  have stage : s.Opening := by
    rcases inv.stage with stage | stage | stage
    · have := stage.waiting task
      simp [starting] at this
    · exact stage
    · exact absurd starting (stage.unstarted task)
  obtain ⟨event, only, started, zero⟩ := stage.sent
  have unheld : ∀ task' event, ¬t.holds task' event := by
    intro task' event' held
    by_cases own : task' = task
    · exact moves.unheld (fun _ => id) event' (own ▸ held)
    · exact stage.unheld task' event' (moves.held own held)
  have claimed : ∀ {event'}, t.Claimed event' → event' = event := by
    rintro event' (sent | ⟨task', held⟩)
    · rwa [unsent, only, List.mem_singleton] at sent
    · exact absurd held (unheld task' event')
  have waiting : ∀ task', t.phase task' = .outside ∨ t.phase task' = .minted := by
    intro task'
    by_cases own : task' = task
    · exact Or.inl (own ▸ moves.own)
    · rw [moves.others own]
      rcases stage.waiting task' with outside | minted | starting'
      · exact Or.inl outside
      · exact Or.inr minted
      · exact absurd (stage.lone starting' starting) own
  refine ⟨by omega, unsent ▸ inv.wellFormed, Or.inr (Or.inr ?_)⟩
  constructor
  · simp [unsent, only]
  · intro task' starting'
    simpa [starting'] using waiting task'
  · exact fun held => absurd held (unheld _ _)
  · intro _ _ event' known
    rw [claimed known, zero, first]
    decide
  · intro task' pointer
    have := waiting task'
    rcases pointer with points | closes <;> simp_all
  · exact fun held => absurd held (unheld _ _)
  · exact fun held => absurd held (unheld _ _)
  · intro task' closing
    simpa [closing] using waiting task'
  · intro event' known ending
    rw [claimed known, started] at ending
    cases ending

theorem Ordered.opened (inv : s.Ordered) (live : s.listed ∨ ∃ task, s.phase task = .pointing ∨
    s.phase task = .closing) : s.Opened := by
  rcases inv.stage with stage | stage | stage
  · rcases live with listed | ⟨task, pointer⟩
    · exact absurd listed stage.unlisted
    · have := stage.waiting task
      rcases pointer with points | closes <;> simp_all
  · rcases live with listed | ⟨task, pointer⟩
    · exact absurd listed stage.unlisted
    · have := stage.waiting task
      rcases pointer with points | closes <;> simp_all
  · exact stage

theorem Ordered.close (inv : s.Ordered) (moves : s.Moves t task .closing) (listed : s.listed)
    (unlisted : ¬t.listed) (unsent : t.events = s.events) (counter : t.next = s.next) : t.Ordered := by
  have stage := inv.opened (Or.inl listed)
  have unheld : ∀ event, t.holds task event → s.holds task event :=
    fun event held => absurd held (moves.unheld (fun _ => id) event)
  have holds {task' event} := @Moves.holds s t task _ moves unheld task' event
  have claimed {event} := @Moves.claimed s t task _ moves unsent unheld event
  refine ⟨counter ▸ inv.bounded, unsent ▸ inv.wellFormed, Or.inr (Or.inr ?_)⟩
  constructor
  · exact unsent ▸ stage.sent
  · exact fun task' starting => stage.unstarted task' (moves.before starting (by simp)).2
  · exact fun held minted => stage.unminted (holds held) (moves.before minted (by simp)).2
  · exact fun here => absurd here unlisted
  · intro task' _ counting event known
    exact counter ▸ stage.listedCounter listed (counter ▸ counting) event (claimed known)
  · exact fun held => unsent ▸ stage.unsent (holds held)
  · exact fun held held' => stage.distinct (holds held) (holds held')
  · intro task' closing
    have own : ∀ {task'}, t.phase task' = .closing → task' = task := by
      intro task' closing
      by_contra other
      exact (stage.closer (moves.others other ▸ closing)).1 listed
    refine ⟨unlisted, fun task'' closing' => (own closing').trans (own closing).symm, ?_⟩
    exact fun event known ending => (stage.ended (claimed known) ending).1 listed
  · exact fun known ending => absurd listed (stage.ended (claimed known) ending).1

section Claim

variable {last : Bool} (pointer : s.MayClaim task last)
include pointer

theorem MayClaim.opened (inv : s.Ordered) : s.Opened := by
  apply inv.opened
  cases pointer with
  | listed here => exact Or.inl here
  | pointed points unended => exact Or.inr ⟨task, Or.inl points⟩
  | removed closing => exact Or.inr ⟨task, Or.inr closing⟩

/-- Only the task that removed the session claims a number for the Ended event. -/
theorem MayClaim.closing (ending : last = true) : s.phase task = .closing := by
  cases pointer with
  | removed closing => exact closing
  | _ => cases ending

variable (stage : s.Opened)
include stage

theorem MayClaim.below (counting : 0 ≤ s.next) {event : TransactionEventRequest}
    (known : s.Claimed event) : event.seqNo < s.next := by
  cases pointer with
  | listed here => exact stage.listedCounter here counting event known
  | pointed points unended => exact stage.pointedCounter (Or.inl points) counting event known
  | removed closing => exact stage.pointedCounter (Or.inr closing) counting event known

theorem MayClaim.unended {event : TransactionEventRequest} (known : s.Claimed event) :
    event.eventType ≠ .ended := by
  intro ending
  cases pointer with
  | listed here => exact (stage.ended known ending).1 here
  | pointed points unended => exact unended event known ending
  | removed closing => exact (stage.closer closing).2.2 event known ending

variable (moves : s.Moves t task (.numbered s.next last)) (counting : 0 ≤ s.next)
  (unsent : t.events = s.events)
include moves counting unsent

theorem MayClaim.top {event : TransactionEventRequest} (known : t.Claimed event) :
    event.seqNo ≤ s.next := by
  rcases moves.claimed_or unsent known with before | held
  · exact (pointer.below stage counting before).le
  · exact (moves.numbered held).1.le

theorem MayClaim.counted (bounded : s.next < 2147483648) (counter : t.next = wrappingSucc s.next)
    (counting' : 0 ≤ t.next) {event : TransactionEventRequest} (known : t.Claimed event) :
    event.seqNo < t.next := by
  have top := pointer.top stage moves counting unsent known
  rcases wrappingSucc_cases bounded counting with next | wrapped
  · omega
  · omega

theorem Opened.claim (bounded : s.next < 2147483648) (counter : t.next = wrappingSucc s.next)
    (listing : t.listed ↔ s.listed) : t.Opened where
  sent := unsent ▸ stage.sent
  unstarted task' starting := stage.unstarted task' (moves.before starting (by simp)).2
  unminted held minted := by
    obtain ⟨other, minted'⟩ := moves.before minted (by simp)
    exact stage.unminted (moves.held other held) minted'
  listedCounter _ counting' _ known :=
    pointer.counted stage moves counting unsent bounded counter counting' known
  pointedCounter _ counting' _ known :=
    pointer.counted stage moves counting unsent bounded counter counting' known
  unsent {task' event} held sent mem := by
    rw [unsent] at mem
    by_cases same : task' = task
    · subst same
      rw [(moves.numbered held).1]
      exact pointer.below stage counting (Or.inl mem)
    · exact stage.unsent (moves.held same held) sent mem
  distinct {task₁ task₂ event₁ event₂} held₁ held₂ equal := by
    by_cases same₁ : task₁ = task <;> by_cases same₂ : task₂ = task
    · exact same₁.trans same₂.symm
    · have := pointer.below stage counting (Or.inr ⟨task₂, moves.held same₂ held₂⟩)
      have := (moves.numbered (same₁ ▸ held₁)).1
      omega
    · have := pointer.below stage counting (Or.inr ⟨task₁, moves.held same₁ held₁⟩)
      have := (moves.numbered (same₂ ▸ held₂)).1
      omega
    · exact stage.distinct (moves.held same₁ held₁) (moves.held same₂ held₂) equal
  closer closing := by
    obtain ⟨other, closing'⟩ := moves.before closing (by simp)
    obtain ⟨unlisted, alone, -⟩ := stage.closer closing'
    -- the task that removed the session is another one, so what was claimed is an update
    have updating : last ≠ true := fun ending => other (alone task (pointer.closing ending)).symm
    refine ⟨fun listed => unlisted (listing.mp listed), fun task'' closing'' => ?_, fun event known => ?_⟩
    · exact alone task'' (moves.before closing'' (by simp)).2
    · rcases moves.claimed_or unsent known with earlier | held
      · exact pointer.unended stage earlier
      · simp [(moves.numbered held).2, updating]
  ended {event} known ending := by
    have held : t.holds task event :=
      (moves.claimed_or unsent known).resolve_left fun earlier => pointer.unended stage earlier ending
    obtain ⟨number, kind⟩ := moves.numbered held
    have closing : s.phase task = .closing := by
      apply pointer.closing
      by_contra updating
      simp [kind, updating] at ending
    refine ⟨fun listed => (stage.closer closing).1 (listing.mp listed), fun event' known' => ?_⟩
    rw [number]
    exact pointer.top stage moves counting unsent known'

end Claim

theorem Ordered.claim {last : Bool} (inv : s.Ordered) (moves : s.Moves t task (.numbered s.next last))
    (pointer : s.MayClaim task last) (counting : 0 ≤ s.next) (counter : t.next = wrappingSucc s.next)
    (unsent : t.events = s.events) (listing : t.listed ↔ s.listed) : t.Ordered where
  bounded := counter ▸ wrappingSucc_lt s.next
  wellFormed := unsent ▸ inv.wellFormed
  stage := by
    have stage := pointer.opened inv
    exact Or.inr (Or.inr (stage.claim pointer moves counting unsent inv.bounded counter listing))

theorem Ordered.send {event : TransactionEventRequest} (inv : s.Ordered) (moves : s.Moves t task .outside)
    (held : s.holds task event) (numbered : s.phase task ≠ .minted)
    (inOrder : ∀ task' event', task' ≠ task → s.holds task' event' → event.seqNo ≤ event'.seqNo)
    (sent : t.events = s.events ++ [event]) (listing : t.listed ↔ s.listed)
    (counter : t.next = s.next) : t.Ordered := by
  obtain ⟨seqNo, last, phase⟩ : ∃ seqNo last, s.phase task = .numbered seqNo last := by
    have maySend := s.maySend held
    cases here : s.phase task with
    | minted => exact absurd here numbered
    | numbered seqNo last => exact ⟨seqNo, last, rfl⟩
    | _ => exact (here ▸ maySend).elim
  have stage : s.Opened := by
    rcases inv.stage with stage | stage | stage
    · have := stage.waiting task
      simp [phase] at this
    · exact absurd held (stage.unheld task event)
    · exact stage
  have unstarted : event.eventType ≠ .started := by
    have maySend := s.maySend held
    rw [phase] at maySend
    rw [maySend.2]
    cases last <;> simp
  have unended : ∀ earlier ∈ s.events, earlier.eventType ≠ .ended := by
    intro earlier mem ending
    have := (stage.ended (Or.inl mem) ending).2 event (Or.inr ⟨task, held⟩)
    have := stage.unsent held earlier mem
    omega
  have unheld : ∀ event', t.holds task event' → s.holds task event' :=
    fun event' held' => absurd held' (moves.unheld (fun _ => id) event')
  have holds {task' event'} := @Moves.holds s t task _ moves unheld task' event'
  refine ⟨counter ▸ inv.bounded, ?_, Or.inr (Or.inr ?_)⟩
  · exact sent ▸ inv.wellFormed.append stage.sent unstarted unended (stage.unsent held)
  refine stage.settled (by simp [sent]) (moves.settles (Or.inr (Or.inl rfl))) listing.mp counter ?_ holds ?_
  · rintro event' (mem | ⟨task', held'⟩)
    · rw [sent, List.mem_append, List.mem_singleton] at mem
      rcases mem with earlier | rfl
      · exact Or.inl earlier
      · exact Or.inr ⟨task, held⟩
    · exact Or.inr ⟨task', holds held'⟩
  · intro task' event' held' earlier mem
    rw [sent, List.mem_append, List.mem_singleton] at mem
    rcases mem with before | rfl
    · exact stage.unsent (holds held') earlier before
    · have other : task' ≠ task := by
        rintro rfl
        exact moves.unheld (fun _ => id) event' held'
      have atLeast := inOrder task' event' other (holds held')
      have different : event'.seqNo ≠ earlier.seqNo :=
        fun equal => other (stage.distinct (holds held') held equal)
      omega

theorem ordered_step (inv : s.Ordered) (stepped : s.Step t) : t.Ordered := by
  cases stepped with
  | rest task same moves held => exact inv.settled same moves (Or.inl rfl) held
  | leave task same moves =>
      refine inv.settled same moves (Or.inr (Or.inl rfl)) fun event held => ?_
      exact absurd held (moves.unheld (fun _ => id) event)
  | mint task same moves unused unheld => exact inv.mint same moves unused unheld
  | start task event phase moves held minted past sent listing counter =>
      exact inv.start moves held minted past sent listing counter
  | list task moves starting unsent first => exact inv.list moves starting unsent first
  | point task same moves listed =>
      refine inv.settled same moves (Or.inr (Or.inr ⟨rfl, listed⟩)) fun event held => ?_
      exact absurd held (moves.unheld (fun _ => id) event)
  | close task moves listed unlisted unsent counter =>
      exact inv.close moves listed unlisted unsent counter
  | claim task last moves pointer counting counter unsent listing =>
      exact inv.claim moves pointer counting counter unsent listing
  | send task event moves held numbered inOrder sent listing counter =>
      exact inv.send moves held numbered inOrder sent listing counter

end Stream

/-! ## The stream of the running charge point -/

variable {transactionId}

def System.view {system : System} {phases : Nat → Phase}
    (obeys : system.Obeys (numbering transactionId) phases) : Stream where
  events := system.shared.stream transactionId
  listed := (system.shared.v201Sessions.lookup transactionId).isSome
  next := (system.shared.cells transactionId).nextSeqNo
  phase := phases
  holds task event := event.transactionId = transactionId ∧ system.At (Holds event) task
  maySend := by
    rintro task event ⟨here, call, p, running, holds⟩
    exact maySend_of_holds (obeys task call p running) here holds

/-- The station as the stream of the transaction sees it. -/
def Station.SameStream (transactionId : Int) (s t : Station) : Prop :=
  t.stream transactionId = s.stream transactionId ∧
    (t.v201Sessions.lookup transactionId).isSome = (s.v201Sessions.lookup transactionId).isSome ∧
    (t.cells transactionId).nextSeqNo = (s.cells transactionId).nextSeqNo

theorem Station.stream_called (s : Station) (transactionId : Int) (request : Request) (answer : Answer) :
    (s.called request answer).stream transactionId =
      s.stream transactionId ++ (sentEvent transactionId (request, answer)).toList := by
  cases sent : sentEvent transactionId (request, answer) <;>
    simp [Station.stream, Station.called, List.filterMap_append, sent]

theorem Op.Unnumbered.sameStream {op : Op} (unnumbered : op.Unnumbered) (choice : Choice) (s : Station) :
    s.SameStream transactionId (op.effect choice s) := by
  cases op
  case mintTransactionId | claimSeqNo | claimListedSeqNo | insertSession | getSession | removeSession =>
    exact unnumbered.elim
  case call request =>
    cases choice with
    | answer answer =>
        refine ⟨?_, rfl, rfl⟩
        rw [Op.effect, Station.stream_called]
        cases request with
        | transactionEvent event => exact unnumbered.elim
        | _ => exact List.append_nil _
    | _ => exact ⟨rfl, rfl, rfl⟩
  case setIdentity tid idTag groupIdToken =>
    simp only [Op.effect, Station.setIdentity]
    split
    case h_1 session listed =>
      refine ⟨rfl, ?_, rfl⟩
      by_cases here : transactionId = tid
      · subst here
        simp [listed]
      · simp [AList.lookup_insert_ne here]
    case h_2 => exact ⟨rfl, rfl, rfl⟩
  case deauthorizeSessions idTag =>
    refine ⟨rfl, rfl, ?_⟩
    simp only [Op.effect, Station.deauthorize]
    split <;> rfl
  case lockState tid | setState tid state | unlockState tid | authorize tid =>
    refine ⟨rfl, rfl, ?_⟩
    by_cases here : transactionId = tid
    · subst here
      simp [Op.effect, Station.lockState, Station.setState, Station.unlockState, Station.authorize,
        Station.setCell]
    · simp [Op.effect, Station.lockState, Station.setState, Station.unlockState, Station.authorize,
        Station.setCell, here]
  case removeTimers ids =>
    obtain ⟨expiryTimers, timers, removed⟩ := s.removeTimers_eq ids
    rw [Op.effect, removed]
    exact ⟨rfl, rfl, rfl⟩
  case expireReservation | takeIfIdle =>
    simp only [Op.effect]
    split_ifs <;> exact ⟨rfl, rfl, rfl⟩
  all_goals exact ⟨rfl, rfl, rfl⟩

section Refinement

variable {system : System} {phases : Nat → Phase} (obeys : system.Obeys (numbering transactionId) phases)

theorem moves_of_update {task : Nat} {call : Call} {p : Async Unit} {phase : Phase} {t : Station}
    (obeys' : (⟨t, Function.update system.tasks task (Pool.live call p)⟩ : System).Obeys
      (numbering transactionId) (Function.update phases task phase)) :
    (System.view obeys).Moves (System.view obeys') task phase where
  own := Function.update_self ..
  others other := Function.update_of_ne other _ _
  held := by
    rintro task' event other ⟨here, call', p', running, holds⟩
    rcases Pool.task_of_update running with ⟨same, -⟩ | ⟨-, before⟩
    · exact absurd same other
    · exact ⟨here, call', p', before, holds⟩

theorem spawn_refines {system' : System} {task : Nat} {call : Call}
    (stepped : system.step config rfc (.spawn task call) = some system') :
    ∃ phases', ∃ obeys' : system'.Obeys (numbering transactionId) phases',
      (System.view obeys).Step (System.view obeys') := by
  obtain ⟨p, s, -, started, rfl⟩ := Pool.step_spawn stepped
  obtain ⟨rfl, commands, timers, rfl⟩ := Call.start_shared started
  refine ⟨_, obeys.started .outside (call.run_obeys config rfc), ?_⟩
  exact .leave task ⟨rfl, Iff.rfl, rfl⟩ (moves_of_update obeys _)

theorem drop_refines {system' : System} {task : Nat}
    (stepped : system.step config rfc (.drop task) = some system') :
    ∃ phases', ∃ obeys' : system'.Obeys (numbering transactionId) phases',
      (System.view obeys).Step (System.view obeys') := by
  obtain ⟨call, p, -, -, rfl⟩ := Pool.step_drop stepped
  refine ⟨_, obeys.dropped, .rest task ⟨rfl, Iff.rfl, rfl⟩ ⟨rfl, fun _ => rfl, ?_⟩ ?_⟩
  · rintro task' event other ⟨here, call', p', running, holds⟩
    exact ⟨here, call', p', (Pool.task_of_drop running).2, holds⟩
  · rintro event ⟨here, call', p', running, holds⟩
    exact absurd rfl (Pool.task_of_drop running).1

variable {task : Nat} {call : Call} {op : Op} {next : op.Result → Async Unit} {result : op.Result}
  {t : Station} (running : system.tasks task = some (call, .perform op next))

theorem moves_of_performed {phase : Phase}
    (reached : (phases task).after transactionId op result = phase) :
    (System.view obeys).Moves (System.view (obeys.performed (s := t) running result)) task phase := by
  subst reached
  exact moves_of_update obeys (obeys.performed running result)

theorem held_of_performed (unnumbered : ¬op.Numbers) (event : TransactionEventRequest)
    (held : (System.view (obeys.performed (s := t) running result)).holds task event) :
    (System.view obeys).holds task event := by
  obtain ⟨here, call', p', after, holds⟩ := held
  rcases Pool.task_of_update after with ⟨-, rfl, rfl⟩ | ⟨other, -⟩
  · exact ⟨here, call', _, running, Reaches.of_next unnumbered holds⟩
  · exact absurd rfl other

theorem idle_refines (unnumbered : ¬op.Numbers) (same : system.shared.SameStream transactionId t)
    (stays : (phases task).after transactionId op result = phases task) :
    (System.view obeys).Step (System.view (obeys.performed (s := t) running result)) := by
  exact .rest task ⟨same.1, by simp [System.view, same.2.1], same.2.2⟩
    (moves_of_performed obeys running stays) (held_of_performed obeys running unnumbered)

theorem leaving_refines (same : system.shared.SameStream transactionId t)
    (leaves : (phases task).after transactionId op result = .outside) :
    (System.view obeys).Step (System.view (obeys.performed (s := t) running result)) := by
  exact .leave task ⟨same.1, by simp [System.view, same.2.1], same.2.2⟩
    (moves_of_performed obeys running leaves)

end Refinement

section Operations

variable {system : System} {phases : Nat → Phase} (obeys : system.Obeys (numbering transactionId) phases)
  {task : Nat} {call : Call}

theorem event_refines {event : TransactionEventRequest} {answer : Answer}
    {next : Except OcppError Response → Async Unit}
    (running : system.tasks task = some (call, .perform (.call (.transactionEvent event)) next))
    (ordered : (Op.call (.transactionEvent event)).InOrder transactionId system task (.answer answer)) :
    (System.view obeys).Step (System.view (obeys.performed
      (s := system.shared.called (.transactionEvent event) answer) running answer.outcome)) := by
  have stream := system.shared.stream_called transactionId (.transactionEvent event) answer
  by_cases here : event.transactionId = transactionId
  · by_cases sent : answer.Sent
    · have added : (system.shared.called (.transactionEvent event) answer).stream transactionId =
          system.shared.stream transactionId ++ [event] := by
        simp [stream, sentEvent, here, sent]
      have held : (System.view obeys).holds task event := ⟨here, call, _, running, Or.inl rfl⟩
      by_cases minted : phases task = .minted
      · refine .start task event _ (moves_of_performed obeys running rfl) held minted ?_ added Iff.rfl rfl
        simp only [Phase.after, here, if_true]
        split_ifs <;> simp
      · refine .send task event (moves_of_performed obeys running ?_) held minted ?_ added Iff.rfl rfl
        · simp [Phase.after, here, minted]
        · rintro task' event' other ⟨here', holds⟩
          by_contra below
          exact ordered here sent ⟨task', event', other, here', by omega, holds⟩
    · refine leaving_refines obeys running ⟨?_, rfl, rfl⟩ ?_
      · simp [stream, sentEvent, sent]
      · cases answer with
        | refused error => simp [Phase.after, here, Answer.outcome, Except.isOk, Except.toBool]
        | _ => exact absurd trivial sent
  · refine idle_refines obeys running id ⟨?_, rfl, rfl⟩ ?_
    · simp [stream, sentEvent, here]
    · simp [Phase.after, here]

theorem mint_refines {next : Int → Async Unit}
    (running : system.tasks task = some (call, .perform .mintTransactionId next))
    {choice : Choice} (ordered : Op.mintTransactionId.InOrder transactionId system task choice) :
    (System.view obeys).Step (System.view (obeys.performed (s := system.shared.mintTransactionId) running
      system.shared.nextV201TransactionId)) := by
  by_cases here : system.shared.nextV201TransactionId = transactionId
  · obtain ⟨unused, unheld⟩ := ordered here
    refine .mint task ⟨rfl, Iff.rfl, rfl⟩ (moves_of_performed obeys running ?_) unused ?_
    · simp [Phase.after, here]
    · rintro task' event other ⟨here', holds⟩
      exact unheld ⟨task', event, other, here', trivial, holds⟩
  · refine leaving_refines obeys running ⟨rfl, rfl, rfl⟩ ?_
    simp [Phase.after, here]

theorem insertSession_refines {tid : Int} {session : V201Session} {cell : SessionCell}
    {next : Unit → Async Unit}
    (running : system.tasks task = some (call, .perform (.insertSession tid session cell) next)) :
    (System.view obeys).Step (System.view (obeys.performed
      (s := system.shared.insertSession tid session cell) running ())) := by
  by_cases here : tid = transactionId
  · obtain ⟨starting, first⟩ := (obeys task call _ running).1 here
    refine .list task (moves_of_performed obeys running ?_) starting rfl ?_
    · simp [Phase.after, here]
    · simpa [System.view, Station.insertSession, here] using first
  · have other : transactionId ≠ tid := Ne.symm here
    refine idle_refines obeys running id ⟨rfl, ?_, ?_⟩ ?_
    · simp [Station.insertSession, AList.lookup_insert_ne other]
    · simp [Station.insertSession, other]
    · simp [Phase.after, here]

theorem getSession_refines {tid : Int} {next : Option V201Session → Async Unit}
    (running : system.tasks task = some (call, .perform (.getSession tid) next)) :
    (System.view obeys).Step (System.view (obeys.performed (s := system.shared) running
      (system.shared.v201Sessions.lookup tid))) := by
  by_cases here : tid = transactionId ∧ (system.shared.v201Sessions.lookup tid).isSome
  · refine .point task ⟨rfl, Iff.rfl, rfl⟩ (moves_of_performed obeys running ?_) (here.1 ▸ here.2)
    simp only [Phase.after, here]
    simp
  · refine idle_refines obeys running id ⟨rfl, rfl, rfl⟩ ?_
    simp only [Phase.after, here, if_false]

theorem removeSession_refines {tid : Int} {next : Option V201Session → Async Unit}
    (running : system.tasks task = some (call, .perform (.removeSession tid) next)) :
    (System.view obeys).Step (System.view (obeys.performed (s := system.shared.removeSession tid) running
      (system.shared.v201Sessions.lookup tid))) := by
  by_cases here : tid = transactionId ∧ (system.shared.v201Sessions.lookup tid).isSome
  · refine .close task (moves_of_performed obeys running ?_) (here.1 ▸ here.2) ?_ rfl rfl
    · simp only [Phase.after, here]
      simp
    · simp [System.view, Station.removeSession, here.1]
  · refine idle_refines obeys running id ⟨rfl, ?_, rfl⟩ ?_
    · by_cases same : transactionId = tid
      · subst same
        have unlisted : system.shared.v201Sessions.lookup transactionId = none := by simpa using here
        simp [Station.removeSession, unlisted]
      · simp [Station.removeSession, AList.lookup_erase_ne same]
    · simp only [Phase.after, here, if_false]

theorem Station.claim_sameStream {tid : Int} (other : transactionId ≠ tid) (s : Station) :
    s.SameStream transactionId (s.claim tid) :=
  ⟨rfl, rfl, by simp [Station.claim, Station.setCell, other]⟩

theorem Station.claim_nextSeqNo (s : Station) (tid : Int) :
    ((s.claim tid).cells tid).nextSeqNo = wrappingSucc (s.cells tid).nextSeqNo := by
  simp [Station.claim, Station.setCell]

theorem claimListed_refines {tid : Int} {next : Option Int → Async Unit}
    (running : system.tasks task = some (call, .perform (.claimListedSeqNo tid) next))
    (listed : (system.shared.v201Sessions.lookup tid).isSome)
    {choice : Choice}
    (ordered : (Op.claimListedSeqNo tid).InOrder transactionId system task choice) :
    (System.view obeys).Step (System.view (obeys.performed (s := system.shared.claim tid) running
      (some (system.shared.cells tid).nextSeqNo))) := by
  by_cases here : tid = transactionId
  · subst here
    refine .claim task false (moves_of_performed obeys running ?_) (.listed listed)
      (ordered rfl) (system.shared.claim_nextSeqNo tid) rfl Iff.rfl
    simp [Phase.after, System.view]
  · refine leaving_refines obeys running (Station.claim_sameStream (Ne.symm here) _) ?_
    simp [Phase.after, here]

theorem claim_refines {tid : Int} {next : Int → Async Unit}
    (running : system.tasks task = some (call, .perform (.claimSeqNo tid) next))
    {choice : Choice} (ordered : (Op.claimSeqNo tid).InOrder transactionId system task choice) :
    (System.view obeys).Step (System.view (obeys.performed (s := system.shared.claim tid) running
      (system.shared.cells tid).nextSeqNo)) := by
  by_cases here : tid = transactionId
  · subst here
    obtain ⟨counting, unsent, unheld⟩ := ordered rfl
    refine .claim task (phases task = .closing) (moves_of_performed obeys running ?_) ?_ counting
      (system.shared.claim_nextSeqNo tid) rfl Iff.rfl
    · simp [Phase.after, System.view]
    · rcases (obeys task call _ running).1 rfl with points | closing
      · rw [points]
        refine .pointed points ?_
        rintro event (sent | ⟨task', held⟩) ending
        · exact unsent event sent ending
        · by_cases own : task' = task
          · subst own
            have maySend := (System.view obeys).maySend held
            exact (points ▸ maySend : Phase.MaySend .pointing event)
          · exact unheld ⟨task', event, own, held.1, ending, held.2⟩
      · rw [closing]
        exact .removed closing
  · refine leaving_refines obeys running (Station.claim_sameStream (Ne.symm here) _) ?_
    simp [Phase.after, here]

theorem advance_refines {system' : System} {choice : Choice}
    (inOrder : InOrder transactionId system (.advance task choice))
    (stepped : system.step config rfc (.advance task choice) = some system') :
    ∃ phases', ∃ obeys' : system'.Obeys (numbering transactionId) phases',
      (System.view obeys).Step (System.view obeys') := by
  obtain ⟨call, op, next, result, s, running, performed, rfl⟩ := Pool.step_advance stepped
  have ordered : op.InOrder transactionId system task choice :=
    inOrder call op (by simp [Pool.pending, running])
  refine ⟨_, obeys.performed running result, ?_⟩
  by_cases unnumbered : op.Unnumbered
  · have effect := exec_effect performed
    subst effect
    refine idle_refines obeys running ?_ (unnumbered.sameStream choice system.shared)
      ((unnumbered.ignored transactionId).2 result)
    intro numbers
    cases op <;> first | exact numbers | exact unnumbered
  · cases op
    case call request =>
      cases request with
      | transactionEvent event =>
          cases choice with
          | answer answer => cases performed; exact event_refines obeys running ordered
          | _ => cases performed
      | _ => exact absurd trivial unnumbered
    case mintTransactionId => cases performed; exact mint_refines obeys running ordered
    case insertSession => cases performed; exact insertSession_refines obeys running
    case getSession => cases performed; exact getSession_refines obeys running
    case removeSession => cases performed; exact removeSession_refines obeys running
    case claimSeqNo => cases performed; exact claim_refines obeys running ordered
    case claimListedSeqNo tid =>
      simp only [exec, Option.some.injEq] at performed
      split_ifs at performed with listed
      · cases performed
        exact claimListed_refines obeys running listed ordered
      · cases performed
        exact leaving_refines obeys running ⟨rfl, rfl, rfl⟩ rfl
    all_goals exact absurd trivial unnumbered

end Operations

/-! ## Runs -/

def StreamOrdered (transactionId : Int) (system : System) : Prop :=
  ∃ phases, ∃ obeys : system.Obeys (numbering transactionId) phases, (System.view obeys).Ordered

theorem streamOrdered_step {system system' : System} {action : Action}
    (inv : StreamOrdered transactionId system) (inOrder : InOrder transactionId system action)
    (stepped : system.step config rfc action = some system') : StreamOrdered transactionId system' := by
  obtain ⟨phases, obeys, ordered⟩ := inv
  have refined : ∃ phases', ∃ obeys' : system'.Obeys (numbering transactionId) phases',
      (System.view obeys).Step (System.view obeys') := by
    cases action with
    | spawn task call => exact spawn_refines config rfc obeys stepped
    | drop task => exact drop_refines config rfc obeys stepped
    | advance task choice => exact advance_refines config rfc obeys inOrder stepped
  obtain ⟨phases', obeys', step⟩ := refined
  exact ⟨phases', obeys', Stream.ordered_step ordered step⟩

theorem streamOrdered_new : StreamOrdered transactionId System.new := by
  have idle : System.new.Obeys (numbering transactionId) fun _ => .outside := by
    intro task call p running
    cases running
  refine ⟨_, idle, (by decide : (0 : Int) < 2147483648), StreamWellFormed.nil, Or.inl ?_⟩
  refine ⟨rfl, by simp [System.view, System.new, Station.new], fun _ => Or.inl rfl, ?_⟩
  rintro task task' event event' ⟨-, call, p, running, -⟩
  cases running

/-- In every run whose steps keep the events of a transaction in order, the frames put on the outbound
channel for it form a well-formed stream. -/
theorem event_stream_well_formed {actions : List Action} {system : System}
    (along : Along (System.step config rfc) (InOrder transactionId) System.new actions)
    (ran : run (System.step config rfc) System.new actions = some system) :
    StreamWellFormed (system.shared.stream transactionId) := by
  obtain ⟨phases, obeys, ordered⟩ :=
    run_invariant (fun _ _ _ => streamOrdered_step config rfc) streamOrdered_new along ran
  exact ordered.wellFormed

/-! ## Two tasks with a number each -/

/-- A transaction, one sample of it, and its end up to the Ended event. -/
def sampledSession : List Action :=
  startSession 1 1 ++ .spawn 1 (.samplerTick 1 1) :: drive 1 [.none, answered 0] ++
    .spawn 1 (.stopTransaction 1 0 .local) :: drive 1 (List.replicate 5 .none ++ [answered 0])

/-- Task 1 moves, and no number or id of transaction 1 is out of order. -/
def movesAlone (system : System) (action : Action) : Bool :=
  action.task = 1 &&
    match system.pending 1 with
    | some (_, .claimSeqNo _) | some (_, .claimListedSeqNo _) =>
        0 ≤ (system.shared.cells 1).nextSeqNo &&
          (system.shared.stream 1).all (·.eventType ≠ .ended)
    | some (_, .mintTransactionId) => (system.shared.stream 1).isEmpty
    | _ => true

theorem inOrder_of_movesAlone {system : System} {action : Action}
    (alone : ∀ task, task ≠ 1 → system.tasks task = none) (checked : movesAlone system action) :
    InOrder 1 system action := by
  obtain ⟨mine, allowed⟩ := (Bool.and_eq_true _ _).mp checked
  have unheld : ∀ P, ¬system.HeldElsewhere 1 1 P := by
    rintro P ⟨task', event, other, -, -, call, p, running, -⟩
    rw [alone task' other] at running
    cases running
  cases action with
  | spawn task call => trivial
  | drop task => trivial
  | advance task choice =>
      obtain rfl : task = 1 := of_decide_eq_true mine
      intro call op pending
      rw [pending] at allowed
      cases op
      case call request =>
        cases request <;> cases choice <;> first | exact fun _ _ => unheld _ | trivial
      case claimSeqNo tid =>
        simp only [Bool.and_eq_true, decide_eq_true_eq, List.all_eq_true] at allowed
        exact fun _ => ⟨allowed.1, allowed.2, unheld _⟩
      case claimListedSeqNo tid =>
        simp only [Bool.and_eq_true, decide_eq_true_eq] at allowed
        exact fun _ => allowed.1
      case mintTransactionId => exact fun _ => ⟨List.isEmpty_iff.mp allowed, unheld _⟩
      all_goals trivial

theorem sampled_stream_well_formed :
    ∃ system, run (System.step (simulator .v201) noDates) System.new sampledSession = some system ∧
      (system.shared.stream 1).map (fun event => (event.eventType, event.seqNo)) =
        [(.started, 0), (.updated, 1), (.ended, 2)] ∧
      StreamWellFormed (system.shared.stream 1) := by
  have reached : (run (System.step (simulator .v201) noDates) System.new sampledSession).map
      (fun system => (system.shared.stream 1).map fun event => (event.eventType, event.seqNo)) =
        some [(.started, 0), (.updated, 1), (.ended, 2)] := rfl
  obtain ⟨system, ran, events⟩ := Option.map_eq_some_iff.mp reached
  refine ⟨system, ran, events, event_stream_well_formed (simulator .v201) noDates ?_ ran⟩
  refine Along.of_check (fun system => ∀ task, task ≠ 1 → system.tasks task = none) movesAlone
    (fun _ _ => inOrder_of_movesAlone) ?_ (fun _ _ => rfl) rfl
  intro system action system' alone checked stepped task other
  have mine := of_decide_eq_true ((Bool.and_eq_true _ _).mp checked).1
  rw [Pool.step_other stepped (mine ▸ other), alone task other]

/-- A sampler tick claims a number, and a transition claims the next one and sends its event first. -/
def overtakenTick : List Action :=
  startSession 1 1 ++ [.spawn 1 (.samplerTick 1 1), .advance 1 .none] ++
    .spawn 2 (.transitionChargingState 1 .suspendedEV) ::
      drive 2 [.pick (some 1), .none, .none, .none, answered 0] ++ drive 1 [answered 0]

theorem overtaken_stream_out_of_order :
    ∃ system, run (System.step (simulator .v201) noDates) System.new overtakenTick = some system ∧
      (system.shared.stream 1).map (·.seqNo) = [0, 2, 1] ∧
      ¬StreamWellFormed (system.shared.stream 1) := by
  have reached : (run (System.step (simulator .v201) noDates) System.new overtakenTick).map
      (fun system => (system.shared.stream 1).map (·.seqNo)) = some [0, 2, 1] := rfl
  obtain ⟨system, ran, numbers⟩ := Option.map_eq_some_iff.mp reached
  refine ⟨system, ran, numbers, fun wellFormed => ?_⟩
  have increasing := List.pairwise_map.mpr wellFormed.increasing
  rw [numbers] at increasing
  exact absurd increasing (by decide)

end Ocpp.ChargePoint
