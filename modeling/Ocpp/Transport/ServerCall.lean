import Ocpp.Transport.Server

/-!
# CALLs and the end of their session

A CALL that was sent to a session is released when the session ends: it has its outcome, or its
entry is gone and its receiver fails. The one order of steps that strands it is a frame sent between
`cancel_all` and the drop of the outbound receiver, under an id registered since.
-/

namespace Ocpp.Transport
open Library ServerState

/-- Once the session is over, a CALL sent to it has its outcome or its entry is gone. -/
def Released (s : ServerState) (c : Nat) : Prop :=
  ∀ id uniqueId, s.phase id = .finished → (s.calls c).state = .waiting id uniqueId →
    s.inbox c ≠ none ∨ (s.pending id).lookup uniqueId ≠ some c

theorem Released.receives {s : ServerState} {c id : Nat} {uniqueId : String} (released : Released s c)
    (finished : s.phase id = .finished) (waiting : (s.calls c).state = .waiting id uniqueId) :
    ∃ result, callStep s c .receive = some (s.setCall c (.returned result)) := by
  simp only [callStep, waiting]
  cases outcome : s.inbox c with
  | some result => exact ⟨result, rfl⟩
  | none =>
      have gone := (released id uniqueId finished waiting).resolve_left (fun some => some outcome)
      rw [if_neg gone]
      exact ⟨_, rfl⟩

/-- The step does not send a frame for a pending id to a session between `cancel_all` and the drop of
its outbound receiver. -/
def NoLateSend (s : ServerState) : Action → Prop
  | .call c .send => ∀ id uniqueId, (s.calls c).state = .registered id uniqueId →
      (s.pending id).lookup uniqueId = some c → (s.phase id).isCancelled → s.phase id = .finished
  | _ => True

def NoneStranded (s : ServerState) : Prop :=
  ∀ c id uniqueId, (s.calls c).state = .waiting id uniqueId →
    (s.pending id).lookup uniqueId = some c → (s.phase id).isCancelled = false

theorem noneStranded_init : NoneStranded ServerState.init := by
  intro c id uniqueId waiting
  cases waiting

theorem NoneStranded.released {s : ServerState} (inv : NoneStranded s) (c : Nat) : Released s c := by
  intro id uniqueId finished waiting
  right
  intro found
  have open_ := inv c id uniqueId waiting found
  rw [finished] at open_
  cases open_

theorem NoneStranded.mono {s t : ServerState} (inv : NoneStranded s)
    (waits : ∀ c id uniqueId, (t.calls c).state = .waiting id uniqueId →
      (s.calls c).state = .waiting id uniqueId)
    (entries : ∀ c id uniqueId, (t.calls c).state = .waiting id uniqueId →
      (t.pending id).lookup uniqueId = some c → (s.pending id).lookup uniqueId = some c)
    (phases : ∀ id, (t.phase id).isCancelled → (s.phase id).isCancelled) : NoneStranded t := by
  intro c id uniqueId waiting found
  have before := inv c id uniqueId (waits c id uniqueId waiting) (entries c id uniqueId waiting found)
  by_contra cancelled
  rw [Bool.not_eq_false] at cancelled
  rw [phases id cancelled] at before
  cases before

theorem NoneStranded.settle {s : ServerState} (inv : NoneStranded s) (id : Nat) (uniqueId : String)
    (outcome : Except OcppError Json) : NoneStranded (s.settle id uniqueId outcome) := by
  obtain ⟨pending, inbox, framed⟩ := settle_frame s id uniqueId outcome
  apply inv.mono
  · rw [framed]
    exact fun c other uniqueId' waiting => waiting
  · exact fun c other uniqueId' _ found => settle_pending s id found
  · rw [framed]
    exact fun other cancelled => cancelled

theorem NoneStranded.setCall {s : ServerState} (inv : NoneStranded s) (c : Nat) (state : CallState)
    (idle : ∀ id uniqueId, state = .waiting id uniqueId → (s.pending id).lookup uniqueId = some c →
      (s.phase id).isCancelled = false) : NoneStranded (s.setCall c state) := by
  intro other id uniqueId waiting found
  rw [setCall_calls] at waiting
  split_ifs at waiting with same
  · exact idle id uniqueId waiting (same ▸ found)
  · exact inv other id uniqueId waiting found

theorem NoneStranded.setPhase {s : ServerState} (inv : NoneStranded s) {id : Nat} {phase : Phase}
    (kept : phase.isCancelled → (s.phase id).isCancelled) : NoneStranded (s.setPhase id phase) := by
  apply inv.mono
  · exact fun c other uniqueId waiting => waiting
  · exact fun c other uniqueId _ found => found
  · intro other cancelled
    rw [setPhase_phase] at cancelled
    split_ifs at cancelled with same
    · exact same ▸ kept cancelled
    · exact cancelled

theorem sessionStep_noneStranded {s t : ServerState} {id : Nat} {action : SessionAction}
    (inv : NoneStranded s) (stepped : sessionStep s id action = some t) : NoneStranded t := by
  revert stepped
  fun_cases sessionStep s id action <;> rintro ⟨⟩
  case case1 session cpId now absent =>
    apply inv.mono
    · exact fun c other uniqueId waiting => waiting
    · exact fun c other uniqueId _ found => found
    · intro other cancelled
      by_cases same : other = id
      · subst same
        simp [ServerState.phase, Phase.isCancelled] at cancelled
      · simpa [ServerState.phase, same] using cancelled
  case case5 session uniqueId outcome running => exact inv.settle id uniqueId outcome
  case case8 session unrouted =>
    intro c other uniqueId waiting found
    by_cases same : other = id
    · -- the pending calls of this session are gone
      subst same
      simp at found
    · simp only [Function.update_of_ne same] at found
      simpa [ServerState.setPhase, ServerState.phase, same] using inv c other uniqueId waiting found
  all_goals
    rename_i session phase
    exact inv.setPhase (by rw [ServerState.phase, phase]; simp [Phase.isCancelled])

theorem NoneStranded.returned {s : ServerState} (inv : NoneStranded s) (c : Nat)
    (result : Except OcppError Json) : NoneStranded (s.setCall c (.returned result)) :=
  inv.setCall c _ (fun _ _ waiting => by cases waiting)

theorem NoneStranded.register {s : ServerState} (inv : NoneStranded s) (c id : Nat)
    (uniqueId : String) : NoneStranded { s.setCall c (.registered id uniqueId) with
      pending := Function.update s.pending id ((s.pending id).insert uniqueId c) } := by
  have registered := inv.setCall c (.registered id uniqueId) (fun _ _ waiting => by cases waiting)
  apply registered.mono
  · exact fun other _ _ waiting => waiting
  · intro other id' uniqueId' waiting found
    have different : other ≠ c := by
      rintro rfl
      rw [setCall_calls, if_pos rfl] at waiting
      cases waiting
    by_cases same : id' = id
    · subst same
      simp only [Function.update_self] at found
      by_cases overwritten : uniqueId' = uniqueId
      · subst overwritten
        rw [AList.lookup_insert] at found
        exact absurd (Option.some.inj found).symm different
      · rwa [AList.lookup_insert_ne overwritten] at found
    · simp only [Function.update_of_ne same] at found
      exact found
  · exact fun _ cancelled => cancelled

theorem callStep_noneStranded {s t : ServerState} {c : Nat} {action : CallAction}
    (inv : NoneStranded s) (timely : NoLateSend s (.call c action))
    (stepped : callStep s c action = some t) : NoneStranded t := by
  revert stepped
  fun_cases callStep s c action <;> rintro ⟨⟩
  case case1 call cpId action idle state =>
    have looking : ∀ id uniqueId, state ≠ .waiting id uniqueId := by
      intro id uniqueId
      simp only [state]
      cases s.cpHandles.lookup cpId <;> simp
    apply inv.mono
    · intro other id uniqueId waiting
      by_cases same : other = c
      · subst same
        simp [looking] at waiting
      · simpa [same] using waiting
    · exact fun _ _ _ _ found => found
    · exact fun _ cancelled => cancelled
  case case2 call uniqueId id lookedUp => exact inv.register c id uniqueId
  case case3 call id uniqueId registered finished => exact (inv.settle _ _ _).returned c _
  case case4 call id uniqueId registered unfinished =>
    apply inv.setCall c (.waiting id uniqueId)
    rintro _ _ ⟨⟩ found
    by_contra cancelled
    exact unfinished (timely id uniqueId registered found (by simpa using cancelled))
  case case5 call id uniqueId waiting outcome received => exact inv.returned c _
  case case7 call id uniqueId waiting missing gone => exact inv.returned c _
  case case8 call id uniqueId waiting => exact (inv.settle _ _ _).returned c _

theorem sweepStep_noneStranded {timeoutSecs : Nat} {s t : ServerState} {k : Nat}
    {action : SweepAction} (inv : NoneStranded s)
    (stepped : sweepStep timeoutSecs s k action = some t) : NoneStranded t := by
  obtain ⟨connections, sweeps, events, rfl⟩ := sweepStep_frame stepped
  exact inv

theorem step_noneStranded {timeoutSecs : Nat} {s t : ServerState} {action : Action}
    (inv : NoneStranded s) (timely : NoLateSend s action)
    (stepped : step timeoutSecs s action = some t) : NoneStranded t := by
  cases action with
  | session id action => exact sessionStep_noneStranded inv stepped
  | call c action => exact callStep_noneStranded inv timely stepped
  | sweep k action => exact sweepStep_noneStranded inv stepped

/-- In every run without a late send, every CALL is released by the end of its session. -/
theorem calls_released {timeoutSecs : Nat} {actions : List Action} {s : ServerState}
    (timely : Along (step timeoutSecs) NoLateSend ServerState.init actions)
    (ran : run (step timeoutSecs) ServerState.init actions = some s) (c : Nat) : Released s c :=
  (run_invariant (fun _ _ _ => step_noneStranded) noneStranded_init timely ran).released c

def timelySend : List Action :=
  [.session 0 (.accept "CP1" ⟨0⟩), .session 0 .insertConnection, .session 0 .insertHandle,
    .session 0 .emitConnected, .call 0 (.lookUp "CP1" "Reset"), .call 0 (.register "7"),
    .call 0 .send, .session 0 .leaveLoop, .session 0 .removeHandle, .session 0 .cancelAll,
    .session 0 .removeConnection, .session 0 .emitDisconnected, .session 0 .dropOutbound]

theorem timelySend_released :
    ∃ s, run (step 600) ServerState.init timelySend = some s ∧ s.phase 0 = .finished ∧
      (s.calls 0).state = .waiting 0 "7" ∧ Released s 0 := by
  have timely : Along (step 600) NoLateSend ServerState.init timelySend := by
    iterate 6 refine .cons trivial rfl ?_
    refine .cons ?_ rfl ?_
    · rintro _ _ ⟨⟩ - cancelled
      cases cancelled
    · iterate 6 refine .cons trivial rfl ?_
      trivial
  exact ⟨_, rfl, rfl, rfl, calls_released timely rfl 0⟩

/-! ## Late sends -/

def CanFinish (timeoutSecs : Nat) (s : ServerState) (id : Nat) : Prop :=
  ∃ actions t, run (step timeoutSecs) s actions = some t ∧ t.phase id = .finished ∧
    t.calls = s.calls ∧ t.pending = s.pending ∧ t.inbox = s.inbox

theorem CanFinish.of_step {timeoutSecs : Nat} {s t : ServerState} {id : Nat} {action : SessionAction}
    (stepped : sessionStep s id action = some t) (pending : t.pending = s.pending)
    (inbox : t.inbox = s.inbox) (rest : CanFinish timeoutSecs t id) : CanFinish timeoutSecs s id := by
  obtain ⟨actions, u, ran, finished, sameCalls, samePending, sameInbox⟩ := rest
  refine ⟨.session id action :: actions, u, ?_, finished, sameCalls.trans (sessionStep_calls stepped),
    samePending.trans pending, sameInbox.trans inbox⟩
  rw [run_cons (show step timeoutSecs s (.session id action) = some t from stepped), ran]

theorem reported_canFinish {timeoutSecs : Nat} {s : ServerState} {id : Nat}
    (reported : s.phase id = .reported) : CanFinish timeoutSecs s id := by
  have dropped : sessionStep s id .dropOutbound = some (s.setPhase id .finished) := by
    rw [ServerState.phase] at reported
    simp only [sessionStep, reported]
  apply CanFinish.of_step dropped rfl rfl
  exact ⟨[], _, rfl, by simp, rfl, rfl, rfl⟩

theorem removed_canFinish {timeoutSecs : Nat} {s : ServerState} {id : Nat}
    (removed : s.phase id = .removed) : CanFinish timeoutSecs s id := by
  have emitted : sessionStep s id .emitDisconnected =
      some ((s.setPhase id .reported).emit (.disconnected id "Connection closed")) := by
    rw [ServerState.phase] at removed
    simp only [sessionStep, removed]
  apply CanFinish.of_step emitted rfl rfl
  apply reported_canFinish
  simp [emit, ServerState.phase, ServerState.setPhase]

theorem cancelled_canFinish {timeoutSecs : Nat} {s : ServerState} {id : Nat}
    (cancelled : s.phase id = .cancelled) : CanFinish timeoutSecs s id := by
  have removed : sessionStep s id .removeConnection =
      some { s.setPhase id .removed with connections := s.connections.erase id } := by
    rw [ServerState.phase] at cancelled
    simp only [sessionStep, cancelled]
  apply CanFinish.of_step removed rfl rfl
  apply removed_canFinish
  simp [ServerState.phase, ServerState.setPhase]

/-- A late send does strand its CALL, when the session ends before the timeout. -/
theorem lateSend_strands (timeoutSecs : Nat) {s : ServerState} {c : Nat} (silent : s.inbox c = none)
    (late : ¬ NoLateSend s (.call c .send)) :
    ∃ actions t, run (step timeoutSecs) s (.call c .send :: actions) = some t ∧ ¬ Released t c := by
  simp only [NoLateSend, not_forall] at late
  obtain ⟨id, uniqueId, registered, found, cancelled, unfinished⟩ := late
  have sent : step timeoutSecs s (.call c .send) = some (s.setCall c (.waiting id uniqueId)) := by
    simp only [step, callStep, registered, if_neg unfinished]
  have ending : CanFinish timeoutSecs (s.setCall c (.waiting id uniqueId)) id := by
    have same : (s.setCall c (.waiting id uniqueId)).phase id = s.phase id := rfl
    cases phase : s.phase id with
    | cancelled => exact cancelled_canFinish (same.trans phase)
    | removed => exact removed_canFinish (same.trans phase)
    | reported => exact reported_canFinish (same.trans phase)
    | finished => exact absurd phase unfinished
    | _ => simp [phase, Phase.isCancelled] at cancelled
  obtain ⟨actions, t, ran, finished, calls, pending, inbox⟩ := ending
  refine ⟨actions, t, by rw [run_cons sent, ran], fun released => ?_⟩
  have waiting : (t.calls c).state = .waiting id uniqueId := by
    rw [calls, setCall_calls, if_pos rfl]
  rcases released id uniqueId finished waiting with answered | gone
  · rw [inbox] at answered
    exact answered silent
  · rw [pending] at gone
    exact gone found

def lateSend : List Action :=
  [.session 0 (.accept "CP1" ⟨0⟩), .session 0 .insertConnection, .session 0 .insertHandle,
    .session 0 .emitConnected, .call 0 (.lookUp "CP1" "Reset"), .session 0 .leaveLoop,
    .session 0 .removeHandle, .session 0 .cancelAll, .call 0 (.register "7"), .call 0 .send,
    .session 0 .removeConnection, .session 0 .emitDisconnected, .session 0 .dropOutbound]

theorem lateSend_not_released :
    ∃ s, run (step 600) ServerState.init lateSend = some s ∧ ¬ Released s 0 := by
  refine ⟨_, rfl, fun released => ?_⟩
  rcases released 0 "7" rfl rfl with answered | gone
  · exact answered rfl
  · exact gone rfl

end Ocpp.Transport
