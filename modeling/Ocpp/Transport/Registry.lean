import Ocpp.Transport.Server

/-!
# The registries of the server

The connections, the routing handles and the reported ends of sessions agree with each other along every
run in which no sweep meets an idle connection. A sweep that does removes the connection and reports its
end behind the back of the session, which keeps its handle and reports its end again.
-/

namespace Ocpp.Transport
open Library ServerState

def TransportEvent.isDisconnected (id : Nat) : TransportEvent → Bool
  | .disconnected connectionId _ => connectionId = id
  | _ => false

/-- Every handle leads to a connection; the handle of a charge point is that of its latest session, until
that session gives it up; and the end of a connection is reported at most once. -/
structure Consistent (s : ServerState) : Prop where
  routed : ∀ cpId id, s.cpHandles.lookup cpId = some id → id ∈ s.connections
  latest : ∀ cpId, s.cpHandles.lookup cpId =
    (s.starts.lookup cpId).filter (fun id => !(s.phase id).isTornDown)
  disconnected : ∀ id, s.events.countP (·.isDisconnected id) ≤ 1

/-- The step is not a sweep that meets an idle connection. -/
def NoIdleVisit (timeoutSecs : Nat) (s : ServerState) : Action → Prop
  | .sweep _ (.visit id now) => ∀ info, s.connections.lookup id = some info →
      info.isIdle now timeoutSecs = false
  | _ => True

structure Registry (s : ServerState) : Prop where
  opened : ∀ id, id ∈ s.connections ↔ (s.phase id).isOpen
  started : ∀ cpId id, s.starts.lookup cpId = some id →
    (s.sessions id).cpId = cpId ∧ (s.phase id).isStarted
  latest : ∀ cpId, s.cpHandles.lookup cpId =
    (s.starts.lookup cpId).filter (fun id => !(s.phase id).isTornDown)
  reported : ∀ id, s.events.countP (·.isDisconnected id) = if (s.phase id).isReported then 1 else 0
  unswept : ∀ k, s.sweeps k = .collecting []

theorem registry_init : Registry ServerState.init where
  opened id := by simp [ServerState.init, ServerState.phase, Phase.isOpen]
  started cpId id found := by cases found
  latest cpId := rfl
  reported id := rfl
  unswept k := rfl

theorem Phase.isOpen_of_isStarted {phase : Phase} (started : phase.isStarted)
    (standing : phase.isTornDown = false) : phase.isOpen := by
  cases phase <;> simp_all [Phase.isStarted, Phase.isTornDown, Phase.isOpen]

theorem Registry.consistent {s : ServerState} (inv : Registry s) : Consistent s where
  routed cpId id found := by
    rw [inv.latest, Option.filter_eq_some_iff] at found
    obtain ⟨start, standing⟩ := found
    have standing : (s.phase id).isTornDown = false := by simpa using standing
    exact (inv.opened id).mpr (Phase.isOpen_of_isStarted (inv.started cpId id start).2 standing)
  latest := inv.latest
  disconnected id := by
    rw [inv.reported]
    split <;> decide

/-! ## Steps of a session -/

theorem Registry.frame {s : ServerState} (inv : Registry s) (calls : Nat → Call)
    (pending : Nat → HashMap String Nat) (inbox : Nat → Option (Except OcppError Json)) :
    Registry { s with calls, pending, inbox } :=
  ⟨inv.opened, inv.started, inv.latest, inv.reported, inv.unswept⟩

theorem Registry.emit {s : ServerState} (inv : Registry s) {event : TransportEvent}
    (other : ∀ id, event.isDisconnected id = false) : Registry (s.emit event) where
  opened := inv.opened
  started := inv.started
  latest := inv.latest
  reported id := by
    have kept : (s.emit event).events.countP (·.isDisconnected id) =
        s.events.countP (·.isDisconnected id) := by
      simp [ServerState.emit, other]
    rw [kept]
    exact inv.reported id
  unswept := inv.unswept

section Move

variable {s : ServerState} {id : Nat} (inv : Registry s)
include inv

theorem Registry.started_setPhase {phase : Phase} (started : phase.isStarted = (s.phase id).isStarted)
    (cpId : String) (other : Nat) (found : s.starts.lookup cpId = some other) :
    ((s.setPhase id phase).sessions other).cpId = cpId ∧
      ((s.setPhase id phase).phase other).isStarted := by
  rw [setPhase_cpId, setPhase_flag s id _ started]
  exact inv.started cpId other found

theorem Registry.latest_setPhase {phase : Phase}
    (tornDown : phase.isTornDown = (s.phase id).isTornDown) (cpId : String) :
    s.cpHandles.lookup cpId =
      (s.starts.lookup cpId).filter (fun other => !((s.setPhase id phase).phase other).isTornDown) := by
  have kept : (fun other => !((s.setPhase id phase).phase other).isTornDown) =
      fun other => !(s.phase other).isTornDown :=
    funext fun other => by rw [setPhase_flag s id _ tornDown]
  rw [kept]
  exact inv.latest cpId

theorem Registry.reported_setPhase {phase : Phase}
    (reported : phase.isReported = (s.phase id).isReported) (other : Nat) :
    s.events.countP (·.isDisconnected other) =
      if ((s.setPhase id phase).phase other).isReported then 1 else 0 := by
  rw [setPhase_flag s id _ reported]
  exact inv.reported other

theorem Registry.opened_setPhase {phase : Phase} (opened : phase.isOpen = (s.phase id).isOpen)
    (other : Nat) : other ∈ s.connections ↔ ((s.setPhase id phase).phase other).isOpen := by
  rw [setPhase_flag s id _ opened]
  exact inv.opened other

theorem Registry.setPhase {phase : Phase} (opened : phase.isOpen = (s.phase id).isOpen)
    (started : phase.isStarted = (s.phase id).isStarted)
    (tornDown : phase.isTornDown = (s.phase id).isTornDown)
    (reported : phase.isReported = (s.phase id).isReported) : Registry (s.setPhase id phase) where
  opened := inv.opened_setPhase opened
  started := inv.started_setPhase started
  latest := inv.latest_setPhase tornDown
  reported := inv.reported_setPhase reported
  unswept := inv.unswept

theorem Registry.insertConnection (accepted : s.phase id = .accepted) (info : ConnectionInfo) :
    Registry { s.setPhase id .connected with connections := s.connections.insert id info } where
  opened other := by
    change other ∈ s.connections.insert id info ↔ ((s.setPhase id .connected).phase other).isOpen
    rw [AList.mem_insert, setPhase_phase, inv.opened other]
    split_ifs with here <;> simp [here, Phase.isOpen]
  started := inv.started_setPhase (by rw [accepted]; rfl)
  latest := inv.latest_setPhase (by rw [accepted]; rfl)
  reported := inv.reported_setPhase (by rw [accepted]; rfl)
  unswept := inv.unswept

theorem Registry.removeConnection (cancelled : s.phase id = .cancelled) :
    Registry { s.setPhase id .removed with connections := s.connections.erase id } where
  opened other := by
    change other ∈ s.connections.erase id ↔ ((s.setPhase id .removed).phase other).isOpen
    rw [AList.mem_erase, setPhase_phase, inv.opened other]
    split_ifs with here <;> simp [here, Phase.isOpen]
  started := inv.started_setPhase (by rw [cancelled]; rfl)
  latest := inv.latest_setPhase (by rw [cancelled]; rfl)
  reported := inv.reported_setPhase (by rw [cancelled]; rfl)
  unswept := inv.unswept

theorem Registry.emitDisconnected (removed : s.phase id = .removed) (reason : String) :
    Registry ((s.setPhase id .reported).emit (.disconnected id reason)) where
  opened := inv.opened_setPhase (by rw [removed]; rfl)
  started := inv.started_setPhase (by rw [removed]; rfl)
  latest := inv.latest_setPhase (by rw [removed]; rfl)
  reported other := by
    have counted := inv.reported other
    change (s.events ++ [_]).countP _ = if ((s.setPhase id .reported).phase other).isReported then 1 else 0
    rw [List.countP_append, counted, setPhase_phase]
    by_cases here : other = id
    · subst here
      simp [removed, Phase.isReported, TransportEvent.isDisconnected]
    · simp [here, Ne.symm here, TransportEvent.isDisconnected]
  unswept := inv.unswept

theorem Registry.insertHandle (connected : s.phase id = .connected) :
    Registry { s.setPhase id .routed with
      cpHandles := s.cpHandles.insert (s.sessions id).cpId id
      starts := ((s.sessions id).cpId, id) :: s.starts } where
  opened := inv.opened_setPhase (by rw [connected]; rfl)
  started cpId other found := by
    change ((s.setPhase id .routed).sessions other).cpId = cpId ∧
      ((s.setPhase id .routed).phase other).isStarted
    rw [setPhase_cpId, setPhase_phase]
    simp only [List.lookup_cons] at found
    split at found
    · rename_i named
      obtain rfl := Option.some.inj found
      exact ⟨(eq_of_beq named).symm, by simp [Phase.isStarted]⟩
    · obtain ⟨named, begun⟩ := inv.started cpId other found
      exact ⟨named, by split_ifs <;> simp_all [Phase.isStarted]⟩
  latest cpId := by
    change (s.cpHandles.insert (s.sessions id).cpId id).lookup cpId =
      (List.lookup cpId (((s.sessions id).cpId, id) :: s.starts)).filter
        (fun other => !((s.setPhase id .routed).phase other).isTornDown)
    by_cases named : cpId = (s.sessions id).cpId
    · subst named
      simp [Option.filter, Phase.isTornDown]
    · rw [AList.lookup_insert_ne named, List.lookup_cons, beq_false_of_ne named]
      exact inv.latest_setPhase (by rw [connected]; rfl) cpId
  reported := inv.reported_setPhase (by rw [connected]; rfl)
  unswept := inv.unswept

theorem Registry.removeHandle (left : s.phase id = .left) :
    Registry { s.setPhase id .unrouted with
      cpHandles :=
        if s.cpHandles.lookup (s.sessions id).cpId = some id then
          s.cpHandles.erase (s.sessions id).cpId
        else s.cpHandles } where
  opened := inv.opened_setPhase (by rw [left]; rfl)
  started := inv.started_setPhase (by rw [left]; rfl)
  latest cpId := by
    change (if s.cpHandles.lookup (s.sessions id).cpId = some id then
        s.cpHandles.erase (s.sessions id).cpId else s.cpHandles).lookup cpId =
      (s.starts.lookup cpId).filter (fun other => !((s.setPhase id .unrouted).phase other).isTornDown)
    rw [HashMap.lookup_removeIf]
    have before := inv.latest cpId
    cases start : s.starts.lookup cpId with
    | none =>
        rw [start, Option.filter_none] at before
        simp [before]
    | some latest =>
        have named := (inv.started cpId latest start).1
        by_cases here : latest = id
        · subst here
          subst named
          have held : s.cpHandles.lookup (s.sessions latest).cpId = some latest := by
            rw [before, start]
            simp [Option.filter, left, Phase.isTornDown]
          simp [held, Option.filter, Phase.isTornDown]
        · have later : s.cpHandles.lookup cpId ≠ some id := by
            rw [before, start, Ne, Option.filter_eq_some_iff]
            rintro ⟨same, -⟩
            exact here (Option.some.inj same)
          have kept : ¬(cpId = (s.sessions id).cpId ∧
              s.cpHandles.lookup (s.sessions id).cpId = some id) := by
            rintro ⟨rfl, own⟩
            exact later own
          rw [if_neg kept, before, start]
          simp [Option.filter, here]
  reported := inv.reported_setPhase (by rw [left]; rfl)
  unswept := inv.unswept

theorem Registry.accept (absent : s.phase id = .absent) (cpId : String) (now : DateTime) :
    Registry { s with
      sessions := Function.update s.sessions id ⟨cpId, ⟨cpId, now⟩, .accepted⟩ } := by
  have moved : Registry (s.setPhase id .accepted) := by
    apply inv.setPhase <;> rw [absent] <;> rfl
  have phases : ServerState.phase { s with
      sessions := Function.update s.sessions id ⟨cpId, ⟨cpId, now⟩, .accepted⟩ } =
        (s.setPhase id .accepted).phase := by
    funext other
    by_cases here : other = id <;> simp [ServerState.phase, ServerState.setPhase, here]
  constructor
  · rw [phases]
    exact moved.opened
  · intro cpId' other found
    rw [phases]
    obtain ⟨named, begun⟩ := moved.started cpId' other found
    refine ⟨?_, begun⟩
    have elsewhere : other ≠ id := by
      rintro rfl
      simp [Phase.isStarted] at begun
    rw [setPhase_cpId] at named
    simpa [Function.update_of_ne elsewhere] using named
  · rw [phases]
    exact moved.latest
  · rw [phases]
    exact moved.reported
  · exact moved.unswept

end Move

theorem sessionStep_registry {s t : ServerState} {id : Nat} {action : SessionAction}
    (inv : Registry s) (stepped : sessionStep s id action = some t) : Registry t := by
  revert stepped
  fun_cases sessionStep s id action <;> rintro ⟨⟩
  case case1 session cpId now absent => exact inv.accept absent cpId now
  case case2 session accepted => exact inv.insertConnection accepted session.info
  case case3 session connected => exact inv.insertHandle connected
  case case4 session routed =>
    apply Registry.emit
    · apply inv.setPhase <;> rw [ServerState.phase, routed] <;> rfl
    · exact fun _ => rfl
  case case5 session uniqueId outcome running =>
    obtain ⟨pending, inbox, framed⟩ := s.settle_frame id uniqueId outcome
    rw [framed]
    exact inv.frame s.calls pending inbox
  case case6 session running => apply inv.setPhase <;> rw [ServerState.phase, running] <;> rfl
  case case7 session left => exact inv.removeHandle left
  case case8 session unrouted =>
    have moved : Registry (s.setPhase id .cancelled) := by
      apply inv.setPhase <;> rw [ServerState.phase, unrouted] <;> rfl
    exact moved.frame s.calls _ s.inbox
  case case9 session cancelled => exact inv.removeConnection cancelled
  case case10 session removed => exact inv.emitDisconnected removed _
  case case11 session reported => apply inv.setPhase <;> rw [ServerState.phase, reported] <;> rfl

/-! ## Runs -/

theorem sweepStep_eq_self {timeoutSecs : Nat} {s t : ServerState} {k : Nat} {action : SweepAction}
    (unswept : s.sweeps k = .collecting []) (fresh : NoIdleVisit timeoutSecs s (.sweep k action))
    (stepped : sweepStep timeoutSecs s k action = some t) : t = s := by
  cases action with
  | visit id now =>
      simp only [sweepStep, unswept] at stepped
      cases found : s.connections.lookup id with
      | none =>
          rw [found] at stepped
          cases stepped
      | some info =>
          have active : info.isIdle now timeoutSecs = false := fresh info found
          simpa [found, active] using stepped.symm
  | remove =>
      simp only [sweepStep, unswept] at stepped
      cases stepped
  | report =>
      simp only [sweepStep, unswept] at stepped
      cases stepped

theorem step_registry {timeoutSecs : Nat} {s t : ServerState} {action : Action} (inv : Registry s)
    (fresh : NoIdleVisit timeoutSecs s action) (stepped : step timeoutSecs s action = some t) :
    Registry t := by
  cases action with
  | session id action => exact sessionStep_registry inv stepped
  | call c action =>
      obtain ⟨calls, pending, inbox, rfl⟩ := callStep_frame stepped
      exact inv.frame calls pending inbox
  | sweep k action => rwa [sweepStep_eq_self (inv.unswept k) fresh stepped]

/-- In every run whose sweeps meet no idle connection, the registries are consistent. -/
theorem registries_consistent {timeoutSecs : Nat} {actions : List Action} {s : ServerState}
    (fresh : Along (step timeoutSecs) (NoIdleVisit timeoutSecs) ServerState.init actions)
    (ran : run (step timeoutSecs) ServerState.init actions = some s) : Consistent s :=
  (run_invariant (fun _ _ _ => step_registry) registry_init fresh ran).consistent

def reconnect : List Action :=
  [.session 0 (.accept "CP1" ⟨0⟩), .session 0 .insertConnection, .session 0 .insertHandle,
    .session 0 .emitConnected, .session 1 (.accept "CP1" ⟨5000000000⟩), .session 1 .insertConnection,
    .session 1 .insertHandle, .session 1 .emitConnected, .session 0 .leaveLoop,
    .session 0 .removeHandle, .session 0 .cancelAll, .session 0 .removeConnection,
    .session 0 .emitDisconnected, .session 0 .dropOutbound, .sweep 0 (.visit 1 ⟨8000000000⟩)]

theorem reconnect_consistent : ∃ s, run (step 120) ServerState.init reconnect = some s ∧
    s.cpHandles.lookup "CP1" = some 1 ∧ Consistent s := by
  have fresh : Along (step 120) (NoIdleVisit 120) ServerState.init reconnect := by
    iterate 14 refine .cons trivial rfl ?_
    refine .cons ?_ rfl trivial
    rintro info ⟨⟩
    rfl
  exact ⟨_, rfl, rfl, registries_consistent fresh rfl⟩

theorem idleVisit_inconsistent (timeoutSecs : Nat) {s : ServerState} {k id : Nat} {cpId : String}
    {info : ConnectionInfo} {now : DateTime} (unswept : s.sweeps k = .collecting [])
    (held : s.cpHandles.lookup cpId = some id) (found : s.connections.lookup id = some info)
    (idle : info.isIdle now timeoutSecs) :
    ∃ t, run (step timeoutSecs) s [.sweep k (.visit id now), .sweep k .remove] = some t ∧
      ¬ Consistent t := by
  have visited : step timeoutSecs s (.sweep k (.visit id now)) =
      some (s.setSweep k (.collecting [id])) := by
    simp [step, sweepStep, unswept, found, idle]
  have removed : step timeoutSecs (s.setSweep k (.collecting [id])) (.sweep k .remove) =
      some { (s.setSweep k (.collecting [id])).setSweep k (.reporting id []) with
        connections := s.connections.erase id } := by
    simp [step, sweepStep, setSweep]
  refine ⟨_, (run_cons visited _).trans (run_cons removed _), fun consistent => ?_⟩
  have routed : id ∈ s.connections.erase id := consistent.routed cpId id held
  exact (AList.mem_erase.mp routed).1 rfl

def sweptSession : List Action :=
  [.session 0 (.accept "CP1" ⟨0⟩), .session 0 .insertConnection, .session 0 .insertHandle,
    .session 0 .emitConnected, .sweep 0 (.visit 0 ⟨7200000000000⟩), .sweep 0 .remove, .sweep 0 .report,
    .session 0 .leaveLoop, .session 0 .removeHandle, .session 0 .cancelAll,
    .session 0 .removeConnection, .session 0 .emitDisconnected, .session 0 .dropOutbound]

theorem sweptSession_inconsistent :
    ∃ s, run (step 120) ServerState.init sweptSession = some s ∧ ¬ Consistent s := by
  refine ⟨_, rfl, fun consistent => ?_⟩
  have once := consistent.disconnected 0
  revert once
  decide

end Ocpp.Transport
