import Ocpp.Transport.Pending

/-!
# Calls of the charge point and the client they are made on

`ChargePoint::call` with `establish_session`, `disconnect` and the task of `WebSocketClient`. A call reads
the client twice, to register its id and to send its frame; the task that has left its loop cancels the
pending calls some steps before its end drops the channel. One access to the client under its lock is one
step: `disconnect` holds the lock from the take to the end of `close`.
-/

namespace Ocpp.Transport.Client
open Library

/-- Where the task of a client is. It is closed once its end, or its abort, has dropped the channel. -/
inductive Phase
  | absent
  | running
  | left
  | cancelled
  | closed
deriving DecidableEq

def Phase.isCancelled : Phase → Bool
  | .cancelled | .closed => true
  | _ => false

structure WebSocketClient where
  phase : Phase
  pendingCalls : PendingCallMap
  stored : Bool

inductive CallState
  | idle
  | registered (client : Nat) (uniqueId : String)
  | waiting (client sentOn : Nat) (uniqueId : String)
  | returned (result : Outcome)
  | abandoned

def CallState.entry : CallState → Option (Nat × String)
  | .registered client uniqueId | .waiting client _ uniqueId => some (client, uniqueId)
  | _ => none

structure ChargePoint where
  clients : Nat → WebSocketClient
  client : Option Nat
  calls : Nat → CallState
  inbox : Nat → Option Outcome
  /-- The ids that calls have drawn, and those whose frames have been sent. -/
  issued : List String
  sent : List String

namespace ChargePoint

def new : ChargePoint where
  clients _ := ⟨.absent, .new, false⟩
  client := none
  calls _ := .idle
  inbox _ := none
  issued := []
  sent := []

variable (s : ChargePoint)

def setPhase (k : Nat) (phase : Phase) : ChargePoint :=
  { s with clients := Function.update s.clients k { s.clients k with phase := phase } }

def setPending (k : Nat) (pendingCalls : PendingCallMap) : ChargePoint :=
  { s with clients := Function.update s.clients k { s.clients k with pendingCalls := pendingCalls } }

def setCall (c : Nat) (state : CallState) : ChargePoint :=
  { s with calls := Function.update s.calls c state }

def pending (k : Nat) (uniqueId : String) : Option Nat :=
  (s.clients k).pendingCalls.inner.lookup uniqueId

/-- The call is over and its `PendingGuard` is dropped. -/
def finish (c : Nat) (state : CallState) : ChargePoint :=
  match (s.calls c).entry with
  | some (k, uniqueId) => (s.setPending k ((s.clients k).pendingCalls.remove uniqueId)).setCall c state
  | none => s.setCall c state

/-- `resolve` and `reject` by the receive loop. -/
def settle (k : Nat) (uniqueId : String) (outcome : Outcome) : ChargePoint :=
  match s.pending k uniqueId with
  | some c =>
      { s.setPending k ((s.clients k).pendingCalls.remove uniqueId) with
        inbox := Function.update s.inbox c (some outcome) }
  | none => s

end ChargePoint

def notConnected : OcppError :=
  .transport "Not connected to central system"

def channelClosed : OcppError :=
  .transport "Failed to send message: channel closed"

def connectionClosed : OcppError :=
  .transport "Connection closed while waiting for CALLRESULT"

/-! ## Steps -/

inductive Action
  /-- `WebSocketClient::new`, which spawns the task. -/
  | connect (k : Nat)
  /-- `establish_session` stores its client. -/
  | store (k : Nat)
  | disconnect
  | respond (k : Nat) (uniqueId : String) (outcome : Outcome)
  | leaveLoop (k : Nat)
  | cancelAll (k : Nat)
  | dropChannel (k : Nat)
  | register (c : Nat) (uniqueId : String)
  | send (c : Nat)
  | receive (c : Nat)
  | timeout (c : Nat) (operation : String)
  | abandon (c : Nat)

def step (s : ChargePoint) : Action → Option ChargePoint
  | .connect k =>
      if (s.clients k).phase = .absent then
        some { s with clients := Function.update s.clients k ⟨.running, .new, false⟩ }
      else none
  | .store k =>
      if (s.clients k).phase ≠ .absent ∧ (s.clients k).stored = false then
        some { s with
          clients := Function.update s.clients k { s.clients k with stored := true }
          client := some k }
      else none
  | .disconnect =>
      match s.client with
      | some k =>
          some { s.setPending k (s.clients k).pendingCalls.cancelAll |>.setPhase k .closed with client := none }
      | none => some s
  -- the peer answers a CALL that it was sent
  | .respond k uniqueId outcome =>
      if (s.clients k).phase = .running ∧ uniqueId ∈ s.sent then some (s.settle k uniqueId outcome) else none
  -- the socket closes or fails, or the channel has no sender left
  | .leaveLoop k => if (s.clients k).phase = .running then some (s.setPhase k .left) else none
  | .cancelAll k =>
      if (s.clients k).phase = .left then
        some (s.setPending k (s.clients k).pendingCalls.cancelAll |>.setPhase k .cancelled)
      else none
  | .dropChannel k => if (s.clients k).phase = .cancelled then some (s.setPhase k .closed) else none
  -- `Uuid::new_v4` draws an id that no other call has
  | .register c uniqueId =>
      match s.calls c with
      | .idle =>
          if uniqueId ∈ s.issued then none
          else
            let s := { s with issued := uniqueId :: s.issued }
            match s.client with
            | none => some (s.setCall c (.returned (.error notConnected)))
            | some k =>
                some (s.setPending k ((s.clients k).pendingCalls.register uniqueId c)
                  |>.setCall c (.registered k uniqueId))
      | _ => none
  | .send c =>
      match s.calls c with
      | .registered k uniqueId =>
          match s.client with
          | none => some (s.finish c (.returned (.error notConnected)))
          | some sentOn =>
              if (s.clients sentOn).phase = .closed then
                some (s.finish c (.returned (.error channelClosed)))
              else some { s.setCall c (.waiting k sentOn uniqueId) with sent := uniqueId :: s.sent }
      | _ => none
  | .receive c =>
      match s.calls c with
      | .waiting k _ uniqueId =>
          match s.inbox c with
          | some outcome => some (s.finish c (.returned outcome))
          | none =>
              if s.pending k uniqueId = some c then none
              else some (s.finish c (.returned (.error connectionClosed)))
      | _ => none
  | .timeout c operation =>
      match s.calls c with
      | .waiting _ _ _ => some (s.finish c (.returned (.error (.timeout operation))))
      | _ => none
  | .abandon c =>
      match (s.calls c).entry with
      | some _ => some (s.finish c .abandoned)
      | none => none

section Update

variable (s : ChargePoint) (k k' : Nat) (id : String)

@[simp] theorem setPhase_phase (phase : Phase) :
    ((s.setPhase k phase).clients k').phase = if k' = k then phase else (s.clients k').phase := by
  by_cases same : k' = k
  · subst same
    simp [ChargePoint.setPhase]
  · simp [ChargePoint.setPhase, same]

@[simp] theorem setPhase_pending (phase : Phase) : (s.setPhase k phase).pending k' id = s.pending k' id := by
  by_cases same : k' = k
  · subst same
    simp [ChargePoint.setPhase, ChargePoint.pending]
  · simp [ChargePoint.setPhase, ChargePoint.pending, same]

@[simp] theorem setPending_phase (map : PendingCallMap) :
    ((s.setPending k map).clients k').phase = (s.clients k').phase := by
  by_cases same : k' = k
  · subst same
    simp [ChargePoint.setPending]
  · simp [ChargePoint.setPending, same]

@[simp] theorem setPending_pending (map : PendingCallMap) :
    (s.setPending k map).pending k' id = if k' = k then map.inner.lookup id else s.pending k' id := by
  by_cases same : k' = k
  · subst same
    simp [ChargePoint.setPending, ChargePoint.pending]
  · simp [ChargePoint.setPending, ChargePoint.pending, same]

theorem remove_lookup (map : PendingCallMap) (id' : String) :
    (map.remove id').inner.lookup id = if id = id' then none else map.inner.lookup id := by
  split_ifs with same
  · rw [same]
    exact AList.lookup_erase _ _
  · exact AList.lookup_erase_ne same

theorem cancelAll_lookup (map : PendingCallMap) : map.cancelAll.inner.lookup id = none :=
  AList.lookup_empty id

theorem finish_frame (c : Nat) (state : CallState) :
    ∃ clients, s.finish c state = { s.setCall c state with clients := clients } ∧
      (∀ k, (clients k).phase = (s.clients k).phase) ∧
      ∀ k id, (s.calls c).entry ≠ some (k, id) →
        (clients k).pendingCalls.inner.lookup id = s.pending k id := by
  cases held : (s.calls c).entry with
  | none =>
      refine ⟨s.clients, ?_, fun _ => rfl, fun _ _ _ => rfl⟩
      simp [ChargePoint.finish, held, ChargePoint.setCall]
  | some entry =>
      refine ⟨(s.setPending entry.1 ((s.clients entry.1).pendingCalls.remove entry.2)).clients, ?_, ?_, ?_⟩
      · simp [ChargePoint.finish, held, ChargePoint.setCall, ChargePoint.setPending]
      · exact fun k => setPending_phase s entry.1 k _
      · intro k id other
        refine (setPending_pending s entry.1 k id _).trans ?_
        split_ifs with same
        · rw [remove_lookup, if_neg, same, ChargePoint.pending]
          rintro rfl
          exact other (by rw [same])
        · rfl

end Update

/-! ## Sent calls and the maps they wait on -/

/-- If the send of a call returns `Ok`, its id is registered with the client its frame went to, whose loop
has not cancelled its calls. -/
def SendsTracked (s : ChargePoint) : Action → Prop
  | .send c => ∀ k sentOn id t, step s (.send c) = some t → t.calls c = .waiting k sentOn id →
      s.pending sentOn id = some c ∧ (s.clients sentOn).phase.isCancelled = false
  | _ => True

/-- A call returns at once when the client its frame went to has cancelled its calls. -/
def Answerable (s : ChargePoint) : Prop :=
  ∀ c k sentOn id, s.calls c = .waiting k sentOn id → (s.clients sentOn).phase.isCancelled →
    ∃ result, step s (.receive c) = some (s.finish c (.returned result))

/-- No client is stored while a call is between its two reads, unless nothing can be sent on it, and no
call sends between `cancel_all` and the drop of the channel. -/
def Timely (s : ChargePoint) : Action → Prop
  | .store k => (s.clients k).phase = .closed ∨ ∀ c k' id, s.calls c ≠ .registered k' id
  | .send _ => ∀ k, s.client = some k → (s.clients k).phase ≠ .cancelled
  | _ => True

structure Tracked (s : ChargePoint) : Prop where
  made : ∀ k, s.client = some k → (s.clients k).phase ≠ .absent
  issued : ∀ c k id, (s.calls c).entry = some (k, id) → id ∈ s.issued
  distinct : ∀ c c' k k' id, (s.calls c).entry = some (k, id) → (s.calls c').entry = some (k', id) → c = c'
  sentIssued : ∀ id ∈ s.sent, id ∈ s.issued
  unsent : ∀ c k id, s.calls c = .registered k id → id ∉ s.sent
  registered : ∀ c k k' id, s.calls c = .registered k id → s.client = some k' →
    (s.clients k').phase = .closed ∨
      k' = k ∧ ((s.clients k).phase.isCancelled ∨ s.pending k id = some c)
  waiting : ∀ c k sentOn id, s.calls c = .waiting k sentOn id →
    sentOn = k ∧ (s.pending k id = some c → (s.clients k).phase.isCancelled = false)

theorem tracked_new : Tracked .new := by
  constructor <;> simp [ChargePoint.new, CallState.entry]

namespace Tracked

variable {s t : ChargePoint}

theorem sendable (inv : Tracked s) {c k current : Nat} {id : String}
    (timely : ∀ k, s.client = some k → (s.clients k).phase ≠ .cancelled)
    (registered : s.calls c = .registered k id) (stored : s.client = some current)
    (unclosed : (s.clients current).phase ≠ .closed) :
    current = k ∧ s.pending current id = some c ∧ (s.clients current).phase.isCancelled = false := by
  obtain closed | ⟨rfl, entry⟩ := inv.registered c k current id registered stored
  · exact absurd closed unclosed
  · have running : (s.clients current).phase.isCancelled = false := by
      cases phase : (s.clients current).phase with
      | cancelled => exact absurd phase (timely current stored)
      | closed => exact absurd phase unclosed
      | _ => rfl
    rw [running] at entry
    exact ⟨rfl, entry.resolve_left (by simp), running⟩

theorem sendsTracked (inv : Tracked s) {action : Action} (timely : Timely s action) :
    SendsTracked s action := by
  cases action with
  | send c =>
      intro k sentOn id t stepped waiting
      simp only [step] at stepped
      split at stepped
      · rename_i k' id' registered
        split at stepped
        · obtain rfl := Option.some.inj stepped
          obtain ⟨clients, framed, -⟩ := finish_frame s c (.returned (.error notConnected))
          simp [framed, ChargePoint.setCall] at waiting
        · rename_i current stored
          split_ifs at stepped with closed
          · obtain rfl := Option.some.inj stepped
            obtain ⟨clients, framed, -⟩ := finish_frame s c (.returned (.error channelClosed))
            simp [framed, ChargePoint.setCall] at waiting
          · obtain rfl := Option.some.inj stepped
            obtain ⟨rfl, rfl, rfl⟩ : k' = k ∧ current = sentOn ∧ id' = id := by
              simpa [ChargePoint.setCall] using waiting
            exact (inv.sendable timely registered stored closed).2
      · cases stepped
  | _ => trivial

theorem answerable (inv : Tracked s) : Answerable s := by
  intro c k sentOn id waiting cancelled
  obtain ⟨rfl, open_⟩ := inv.waiting c k sentOn id waiting
  simp only [step, waiting]
  cases s.inbox c with
  | some outcome => exact ⟨outcome, rfl⟩
  | none =>
      refine ⟨.error connectionClosed, if_neg fun found => ?_⟩
      rw [open_ found] at cancelled
      cases cancelled

theorem of_fewer (inv : Tracked s) (phase : ∀ k, (t.clients k).phase = (s.clients k).phase)
    (client : t.client = s.client) (issued : t.issued = s.issued) (sent : t.sent = s.sent)
    (calls : ∀ c, t.calls c = s.calls c ∨ (t.calls c).entry = none)
    (pending : ∀ c k id, (t.calls c).entry = some (k, id) → id ∉ s.sent → t.pending k id = s.pending k id)
    (fewer : ∀ c k id, (t.calls c).entry = some (k, id) → t.pending k id = some c → s.pending k id = some c) :
    Tracked t := by
  have same : ∀ c, (t.calls c).entry ≠ none → t.calls c = s.calls c :=
    fun c holds => (calls c).resolve_right holds
  have entry : ∀ c e, (t.calls c).entry = some e → (s.calls c).entry = some e := by
    intro c e held
    rwa [← same c (by simp [held])]
  have stays : ∀ c k id, t.calls c = .registered k id → s.calls c = .registered k id := by
    intro c k id held
    rw [← same c (by simp [held, CallState.entry]), held]
  constructor
  case made => simpa only [client, phase] using inv.made
  case issued => simpa only [issued] using fun c k id held => inv.issued c k id (entry c _ held)
  case distinct => exact fun c c' k k' id held held' => inv.distinct c c' k k' id (entry c _ held) (entry c' _ held')
  case sentIssued => simpa only [issued, sent] using inv.sentIssued
  case unsent => simpa only [sent] using fun c k id held => inv.unsent c k id (stays c k id held)
  case registered =>
    intro c k k' id held stored
    rw [client] at stored
    rw [phase, phase, pending c k id (by simp [held, CallState.entry]) (inv.unsent c k id (stays c k id held))]
    exact inv.registered c k k' id (stays c k id held) stored
  case waiting =>
    intro c k sentOn id held
    have before : s.calls c = .waiting k sentOn id := by
      rw [← same c (by simp [held, CallState.entry]), held]
    obtain ⟨rfl, open_⟩ := inv.waiting c k sentOn id before
    refine ⟨rfl, fun found => ?_⟩
    rw [phase]
    exact open_ (fewer c sentOn id (by simp [held, CallState.entry]) found)

theorem finish (inv : Tracked s) (c : Nat) {state : CallState} (ended : state.entry = none) :
    Tracked (s.finish c state) := by
  obtain ⟨clients, framed, phase, pending⟩ := finish_frame s c state
  have calls : ∀ c', (s.setCall c state).calls c' = s.calls c' ∨ ((s.setCall c state).calls c').entry = none := by
    intro c'
    by_cases same : c' = c
    · right
      simpa [ChargePoint.setCall, same] using ended
    · left
      simp [ChargePoint.setCall, same]
  -- no other call has the id of this one
  have kept : ∀ c' k id, ((s.setCall c state).calls c').entry = some (k, id) →
      (clients k).pendingCalls.inner.lookup id = s.pending k id := by
    intro c' k id held
    apply pending
    intro own
    obtain same | none := calls c'
    · obtain rfl := inv.distinct c c' k k id own (same ▸ held)
      rw [show (s.setCall c state).calls c = state from Function.update_self ..] at held
      rw [ended] at held
      cases held
    · rw [none] at held
      cases held
  rw [framed]
  exact inv.of_fewer phase rfl rfl rfl calls (fun c' k id held _ => kept c' k id held)
    (fun c' k id held found => (kept c' k id held).symm.trans found)

theorem settle (inv : Tracked s) (k : Nat) {uniqueId : String} (asked : uniqueId ∈ s.sent)
    (outcome : Outcome) : Tracked (s.settle k uniqueId outcome) := by
  cases found : s.pending k uniqueId with
  | none => simpa only [ChargePoint.settle, found] using inv
  | some c =>
      have lookup : ∀ k' id, (s.setPending k ((s.clients k).pendingCalls.remove uniqueId)).pending k' id =
          if k' = k ∧ id = uniqueId then none else s.pending k' id := by
        intro k' id
        rw [setPending_pending, remove_lookup]
        by_cases here : k' = k
        · subst here
          by_cases same : id = uniqueId
          · simp [same]
          · simp [same, ChargePoint.pending]
        · simp [here]
      simp only [ChargePoint.settle, found]
      refine inv.of_fewer (fun k' => setPending_phase s k k' _) rfl rfl rfl (fun _ => .inl rfl) ?_ ?_
      · intro c' k' id _ unsent
        refine (lookup k' id).trans (if_neg fun here => ?_)
        exact unsent (here.2 ▸ asked)
      · intro c' k' id _ held
        have before := (lookup k' id).symm.trans held
        split_ifs at before
        exact before

theorem of_client (inv : Tracked s) {k : Nat} (calls : t.calls = s.calls) (issued : t.issued = s.issued)
    (sent : t.sent = s.sent) (client : ∀ k', t.client = some k' → s.client = some k')
    (others : ∀ k', k' ≠ k → t.clients k' = s.clients k') (made : (t.clients k).phase ≠ .absent)
    (closed : (s.clients k).phase = .closed → (t.clients k).phase = .closed)
    (change : ((t.clients k).phase.isCancelled = (s.clients k).phase.isCancelled ∧
        ∀ id, t.pending k id = s.pending k id) ∨
      ((t.clients k).phase.isCancelled ∨ (s.clients k).phase = .absent) ∧ ∀ id, t.pending k id = none) :
    Tracked t := by
  have elsewhere : ∀ k' id, k' ≠ k → t.pending k' id = s.pending k' id := by
    intro k' id other
    rw [ChargePoint.pending, others k' other, ChargePoint.pending]
  constructor
  case made =>
    intro k' stored
    by_cases here : k' = k
    · exact here ▸ made
    · exact others k' here ▸ inv.made k' (client k' stored)
  case issued => simpa only [calls, issued] using inv.issued
  case distinct => simpa only [calls] using inv.distinct
  case sentIssued => simpa only [sent, issued] using inv.sentIssued
  case unsent => simpa only [calls, sent] using inv.unsent
  case registered =>
    intro c k' current id held stored
    rw [calls] at held
    have now := client current stored
    obtain finished | ⟨rfl, entry⟩ := inv.registered c k' current id held now
    · left
      by_cases here : current = k
      · exact here ▸ closed (here ▸ finished)
      · exact others current here ▸ finished
    · right
      refine ⟨rfl, ?_⟩
      by_cases here : current = k
      · subst here
        obtain ⟨phase, same⟩ | ⟨cancelled | absent, -⟩ := change
        · rw [phase, same]
          exact entry
        · exact .inl cancelled
        · exact absurd absent (inv.made current now)
      · rw [others current here, elsewhere current id here]
        exact entry
  case waiting =>
    intro c k' sentOn id held
    rw [calls] at held
    obtain ⟨rfl, open_⟩ := inv.waiting c k' sentOn id held
    refine ⟨rfl, fun found => ?_⟩
    by_cases here : sentOn = k
    · subst here
      obtain ⟨phase, same⟩ | ⟨-, none⟩ := change
      · rw [phase]
        exact open_ (same id ▸ found)
      · rw [none] at found
        cases found
    · rw [others sentOn here]
      exact open_ (elsewhere sentOn id here ▸ found)

theorem setPhase (inv : Tracked s) (k : Nat) {phase : Phase} (made : phase ≠ .absent)
    (closed : (s.clients k).phase = .closed → phase = .closed)
    (same : phase.isCancelled = (s.clients k).phase.isCancelled) : Tracked (s.setPhase k phase) := by
  refine inv.of_client (k := k) rfl rfl rfl (fun _ stored => stored) ?_ ?_ ?_ ?_
  · exact fun k' other => Function.update_of_ne other _ _
  · simpa using made
  · simpa using closed
  · left
    simpa using same

theorem cancelAll (inv : Tracked s) (k : Nat) {phase : Phase} (made : phase.isCancelled)
    (closed : (s.clients k).phase = .closed → phase = .closed) (client : Option Nat)
    (stored : ∀ k', client = some k' → s.client = some k') :
    Tracked { s.setPending k (s.clients k).pendingCalls.cancelAll |>.setPhase k phase with
      client := client } := by
  refine inv.of_client (k := k) rfl rfl rfl stored ?_ ?_ ?_ ?_
  · intro k' other
    simp [ChargePoint.setPhase, ChargePoint.setPending, other]
  · simp only [setPhase_phase, if_pos]
    rintro rfl
    cases made
  · simpa using closed
  · right
    refine ⟨.inl (by simpa using made), fun id => ?_⟩
    refine (setPhase_pending _ k k id phase).trans ?_
    rw [setPending_pending, if_pos rfl, cancelAll_lookup]

theorem connect (inv : Tracked s) {k : Nat} (absent : (s.clients k).phase = .absent) :
    Tracked { s with clients := Function.update s.clients k ⟨.running, .new, false⟩ } := by
  refine inv.of_client (k := k) rfl rfl rfl (fun _ stored => stored) ?_ ?_ ?_ ?_
  · exact fun k' other => Function.update_of_ne other _ _
  · simp
  · simp [absent]
  · right
    refine ⟨.inr absent, fun id => ?_⟩
    simp [ChargePoint.pending, PendingCallMap.new]

theorem store (inv : Tracked s) {k : Nat} (made : (s.clients k).phase ≠ .absent)
    (timely : Timely s (.store k)) : Tracked { s with
      clients := Function.update s.clients k { s.clients k with stored := true }
      client := some k } := by
  have flagged : Tracked { s with
      clients := Function.update s.clients k { s.clients k with stored := true } } := by
    refine inv.of_client (k := k) rfl rfl rfl (fun _ stored => stored) ?_ ?_ ?_ ?_
    · exact fun k' other => Function.update_of_ne other _ _
    · simpa using made
    · simp
    · left
      simp [ChargePoint.pending]
  exact { flagged with
    made := by
      rintro k' ⟨⟩
      simpa using made
    registered := by
      rintro c k' _ id held ⟨⟩
      obtain closed | none := timely
      · left
        simpa using closed
      · exact absurd held (none c k' id) }

theorem issue (inv : Tracked s) (uniqueId : String) :
    Tracked { s with issued := uniqueId :: s.issued } :=
  { inv with
    issued := fun c k id held => List.mem_cons_of_mem _ (inv.issued c k id held)
    sentIssued := fun id asked => List.mem_cons_of_mem _ (inv.sentIssued id asked) }

theorem register (inv : Tracked s) {c k : Nat} {uniqueId : String} (idle : s.calls c = .idle)
    (new : uniqueId ∉ s.issued) (stored : s.client = some k) :
    Tracked ({ s with issued := uniqueId :: s.issued }
      |>.setPending k ((s.clients k).pendingCalls.register uniqueId c)
      |>.setCall c (.registered k uniqueId)) := by
  have calls : ∀ c', (Function.update s.calls c (.registered k uniqueId)) c' =
      if c' = c then .registered k uniqueId else s.calls c' := Function.update_apply _ _ _
  have other : ∀ c' k' id, (s.calls c').entry = some (k', id) → c' ≠ c ∧ id ≠ uniqueId := by
    intro c' k' id held
    constructor
    · rintro rfl
      rw [idle] at held
      cases held
    · rintro rfl
      exact new (inv.issued c' k' id held)
  have lookup : ∀ k' id, id ≠ uniqueId →
      (s.setPending k ((s.clients k).pendingCalls.register uniqueId c)).pending k' id = s.pending k' id := by
    intro k' id different
    rw [setPending_pending]
    split_ifs with here
    · rw [here]
      exact AList.lookup_insert_ne different
    · rfl
  constructor
  case made =>
    intro k' now
    exact fun absent => inv.made k' now ((setPending_phase s k k' _).symm.trans absent)
  case issued =>
    intro c' k' id held
    simp only [ChargePoint.setCall, ChargePoint.setPending, calls] at held
    split_ifs at held with same
    · obtain ⟨rfl, rfl⟩ : k = k' ∧ uniqueId = id := by simpa [CallState.entry] using held
      exact List.mem_cons_self
    · exact List.mem_cons_of_mem _ (inv.issued c' k' id held)
  case distinct =>
    intro c₁ c₂ k₁ k₂ id held₁ held₂
    simp only [ChargePoint.setCall, ChargePoint.setPending, calls] at held₁ held₂
    split_ifs at held₁ held₂ with first second second
    · exact first.trans second.symm
    · have same : uniqueId = id := by simpa [CallState.entry] using congrArg (·.map (·.2)) held₁
      exact absurd same.symm (other c₂ k₂ id held₂).2
    · have same : uniqueId = id := by simpa [CallState.entry] using congrArg (·.map (·.2)) held₂
      exact absurd same.symm (other c₁ k₁ id held₁).2
    · exact inv.distinct c₁ c₂ k₁ k₂ id held₁ held₂
  case sentIssued => exact fun id asked => List.mem_cons_of_mem _ (inv.sentIssued id asked)
  case unsent =>
    intro c' k' id held
    simp only [ChargePoint.setCall, ChargePoint.setPending, calls] at held
    split_ifs at held with same
    · obtain ⟨rfl, rfl⟩ : k = k' ∧ uniqueId = id := by simpa using held
      exact fun asked => new (inv.sentIssued uniqueId asked)
    · exact inv.unsent c' k' id held
  case registered =>
    intro c' k' current id held now
    simp only [ChargePoint.setCall, ChargePoint.setPending, calls] at held
    have phase := fun k' => setPending_phase s k k' ((s.clients k).pendingCalls.register uniqueId c)
    split_ifs at held with same
    · obtain ⟨rfl, rfl⟩ : k = k' ∧ uniqueId = id := by simpa using held
      right
      refine ⟨Option.some.inj (now.symm.trans stored), .inr ?_⟩
      refine (setPending_pending s k k uniqueId _).trans ?_
      rw [if_pos rfl, same]
      exact AList.lookup_insert _
    · have different := (other c' k' id (by simp [held, CallState.entry])).2
      have entry := inv.registered c' k' current id held now
      rw [← phase current, ← phase k', ← lookup k' id different] at entry
      exact entry
  case waiting =>
    intro c' k' sentOn id held
    simp only [ChargePoint.setCall, ChargePoint.setPending, calls] at held
    split_ifs at held with same
    obtain ⟨rfl, open_⟩ := inv.waiting c' k' sentOn id held
    have different := (other c' sentOn id (by simp [held, CallState.entry])).2
    rw [← lookup sentOn id different, ← setPending_phase s k sentOn
      ((s.clients k).pendingCalls.register uniqueId c)] at open_
    exact ⟨rfl, open_⟩

theorem send (inv : Tracked s) {c k : Nat} {uniqueId : String} (registered : s.calls c = .registered k uniqueId)
    (open_ : (s.clients k).phase.isCancelled = false) :
    Tracked { s.setCall c (.waiting k k uniqueId) with sent := uniqueId :: s.sent } := by
  have calls : ∀ c', (Function.update s.calls c (.waiting k k uniqueId)) c' =
      if c' = c then .waiting k k uniqueId else s.calls c' := Function.update_apply _ _ _
  have own : (s.calls c).entry = some (k, uniqueId) := by simp [registered, CallState.entry]
  have entry : ∀ c' e, ((s.setCall c (.waiting k k uniqueId)).calls c').entry = some e →
      (s.calls c').entry = some e := by
    intro c' e held
    simp only [ChargePoint.setCall, calls] at held
    split_ifs at held with same
    · rw [same, own]
      exact held
    · exact held
  constructor
  case made => exact inv.made
  case issued => exact fun c' k' id held => inv.issued c' k' id (entry c' _ held)
  case distinct =>
    exact fun c₁ c₂ k₁ k₂ id held₁ held₂ => inv.distinct c₁ c₂ k₁ k₂ id (entry c₁ _ held₁) (entry c₂ _ held₂)
  case sentIssued =>
    intro id asked
    obtain rfl | asked := List.mem_cons.mp asked
    · exact inv.issued c k id own
    · exact inv.sentIssued id asked
  case unsent =>
    intro c' k' id held asked
    simp only [ChargePoint.setCall, calls] at held
    split_ifs at held with same
    obtain rfl | asked := List.mem_cons.mp asked
    · exact same (inv.distinct c' c k' k id (by simp [held, CallState.entry]) own)
    · exact inv.unsent c' k' id held asked
  case registered =>
    intro c' k' current id held now
    simp only [ChargePoint.setCall, calls] at held
    split_ifs at held with same
    exact inv.registered c' k' current id held now
  case waiting =>
    intro c' k' sentOn id held
    simp only [ChargePoint.setCall, calls] at held
    split_ifs at held with same
    · obtain ⟨rfl, rfl, rfl⟩ : k = k' ∧ k = sentOn ∧ uniqueId = id := by simpa using held
      exact ⟨rfl, fun _ => open_⟩
    · exact inv.waiting c' k' sentOn id held

theorem step (inv : Tracked s) {action : Action} (timely : Timely s action)
    (stepped : Client.step s action = some t) : Tracked t := by
  revert stepped
  fun_cases Client.step s action <;> intro stepped <;> cases stepped
  case case1 k absent => exact inv.connect absent
  case case3 k storable => exact inv.store storable.1 timely
  case case5 k stored => exact inv.cancelAll k rfl (fun _ => rfl) none (fun _ => nofun)
  case case6 stored => exact inv
  case case7 k uniqueId outcome answered => exact inv.settle k answered.2 outcome
  case case9 k running =>
    apply inv.setPhase k
    · decide
    · simp [running]
    · simp [running, Phase.isCancelled]
  case case11 k left => exact inv.cancelAll k rfl (by simp [left]) s.client (fun _ stored => stored)
  case case13 k cancelled =>
    apply inv.setPhase k
    · decide
    · simp
    · simp [cancelled, Phase.isCancelled]
  case case16 c uniqueId idle new issuing unstored =>
    have returned : Tracked ({ s with issued := uniqueId :: s.issued }.finish c (.returned (.error notConnected))) :=
      (inv.issue uniqueId).finish c rfl
    simpa [ChargePoint.finish, idle, CallState.entry] using returned
  case case17 c uniqueId idle new issuing k stored => exact inv.register idle new stored
  case case21 c k uniqueId registered sentOn stored unclosed =>
    obtain ⟨rfl, -, open_⟩ := inv.sendable timely registered stored unclosed
    exact inv.send registered open_
  all_goals exact inv.finish _ rfl

end Tracked

/-! ## Whole runs -/

/-- In every timely run, every frame that was sent is one its call is answered for. -/
theorem sent_calls_answerable {actions : List Action} {s : ChargePoint}
    (timely : Along step Timely .new actions) (ran : run step .new actions = some s) :
    Along step SendsTracked .new actions ∧ Answerable s := by
  constructor
  · exact timely.of_invariant (fun _ _ _ inv now stepped => Tracked.step inv now stepped)
      (fun _ _ inv now => inv.sendsTracked now) tracked_new
  · have inv : Tracked s :=
      run_invariant (fun _ _ _ inv now stepped => Tracked.step inv now stepped) tracked_new timely ran
    exact inv.answerable

def reconnectedCalls : List Action :=
  [.connect 0, .store 0, .register 0 "7", .send 0, .disconnect, .receive 0, .connect 1, .store 1,
    .register 1 "8", .send 1, .respond 1 "8" (.ok .null), .receive 1]

theorem reconnectedCalls_answerable :
    ∃ s, run step .new reconnectedCalls = some s ∧ s.calls 1 = .returned (.ok .null) ∧
      Along step SendsTracked .new reconnectedCalls ∧ Answerable s := by
  have timely : Along step Timely .new reconnectedCalls := by
    refine .cons trivial rfl (.cons (.inr ?_) rfl (.cons trivial rfl (.cons ?_ rfl ?_)))
    · exact fun c k id => nofun
    · rintro k ⟨⟩
      decide
    · refine .cons trivial rfl (.cons trivial rfl (.cons trivial rfl (.cons (.inr ?_) rfl ?_)))
      · intro c k id
        match c with
        | 0 => exact nofun
        | c + 1 => exact nofun
      · refine .cons trivial rfl (.cons ?_ rfl (.cons trivial rfl (.cons trivial rfl trivial)))
        rintro k ⟨⟩
        decide
  exact ⟨_, rfl, rfl, sent_calls_answerable timely rfl⟩

/-! ## Untimely steps -/

theorem send_stored {s : ChargePoint} {c k sentOn : Nat} {id : String}
    (registered : s.calls c = .registered k id) (stored : s.client = some sentOn)
    (unclosed : (s.clients sentOn).phase ≠ .closed) :
    ∃ t, step s (.send c) = some t ∧ t.calls c = .waiting k sentOn id := by
  refine ⟨{ s.setCall c (.waiting k sentOn id) with sent := id :: s.sent }, ?_, ?_⟩
  · simp only [step, registered, stored]
    rw [if_neg unclosed]
  · simp [ChargePoint.setCall]

/-- A send between `cancel_all` and the drop of the channel returns `Ok`. -/
theorem late_send_untracked {s : ChargePoint} {c k sentOn : Nat} {id : String}
    (registered : s.calls c = .registered k id) (stored : s.client = some sentOn)
    (late : (s.clients sentOn).phase = .cancelled) : ¬ SendsTracked s (.send c) := by
  intro tracked
  obtain ⟨t, stepped, waiting⟩ := send_stored registered stored (by simp [late])
  have open_ := (tracked k sentOn id t stepped waiting).2
  rw [late] at open_
  cases open_

/-- After a client is stored between the two reads of a call, the call sends on a client that does not
have its id. -/
theorem stored_send_untracked {s t : ChargePoint} {c k k' : Nat} {id : String}
    (registered : s.calls c = .registered k id) (unregistered : s.pending k' id ≠ some c)
    (unclosed : (s.clients k').phase ≠ .closed) (stepped : step s (.store k') = some t) :
    ¬ SendsTracked t (.send c) := by
  intro tracked
  obtain ⟨-, storing⟩ := Option.ite_none_right_eq_some.mp stepped
  obtain rfl := Option.some.inj storing
  obtain ⟨u, sending, waiting⟩ := send_stored (s := { s with
    clients := Function.update s.clients k' { s.clients k' with stored := true }
    client := some k' }) registered rfl (by simpa using unclosed)
  apply unregistered
  simpa [ChargePoint.pending] using (tracked k k' id u sending waiting).1

def replacedClient : List Action :=
  [.connect 0, .store 0, .register 0 "7", .connect 1, .store 1]

/-- The client is replaced between the two reads of call 0, whose send returns `Ok`. -/
theorem replacedClient_untracked :
    (∃ s, run step .new (replacedClient ++ [.send 0]) = some s ∧ s.calls 0 = .waiting 0 1 "7") ∧
      ¬ Along step SendsTracked .new (replacedClient ++ [.send 0]) := by
  refine ⟨⟨_, rfl, rfl⟩, fun tracked => ?_⟩
  have ran : run step .new replacedClient = some _ := rfl
  have found := (tracked.after ran 0 1 "7" _ rfl rfl).1
  cases found

end Ocpp.Transport.Client
