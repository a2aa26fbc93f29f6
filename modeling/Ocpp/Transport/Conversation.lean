import Ocpp.Transport.Exchanges
import Mathlib.Algebra.Ring.Nat

/-!
# Conversations

Whole runs of a connection: whatever the order of the steps, the calls of either party are handled once each and in
their order, and a call returns what was answered to it. While the loops run and no call is cancelled, they come to an
end with what they were given, and every call that waits has its answer then.
-/

namespace Ocpp.Transport.Link
open Library

section Run

variable {η : Side → Type} (text : JsonText) (ends : ∀ side, End (η side)) (start : ∀ side, η side)

/-- The calls of both parties are exchanges. -/
def Exchanging (s : Connection η) : Prop :=
  ∀ side, (s.exchange text ends side).Inv (ends side.other).service (start side.other)

/-- What a call of a party has returned is an error of its own, or what it makes of the other party's answer to it. -/
def Returning (s : Connection η) : Prop :=
  ∀ side c call outcome, (s.peers side).calls c = ⟨some call, .returned outcome⟩ →
    (∃ e ∈ (ends side).ownErrors call, outcome = .error e) ∨
    ∃ reply answer, (call, some reply) ∈ (s.peers side.other).handled ∧
      response reply = some (call.uniqueId, answer) ∧ outcome = result (ends side).validator call.action answer

variable {text ends start} {s t : Connection η} {actions : List Action}

theorem exchanging_new : Exchanging text ends start (.new start) := by
  intro side
  constructor <;> simp [Connection.exchange, exchange, Connection.new, Peer.new, Service.serveAll, Service.after,
    mapWith, PendingCallMap.new, CallState.stage]

theorem Exchanging.step (inv : Exchanging text ends start s) {action : Action} (readable : Readable text ends s action)
    (stepped : step text ends s action = some t) : Exchanging text ends start t := by
  intro side
  obtain same | moved := step_exchange false side (inv side) readable (by simp) stepped
  · rw [same]
    exact inv side
  · exact (inv side).step moved

section Peer

variable {η η' : Type} {e : End η} {peer peer' : Peer η} {c : Nat} {text : JsonText}

theorem settle_keeps (peer : Peer η) (uniqueId : String) (outcome : Outcome) :
    (peer.settle uniqueId outcome).calls = peer.calls ∧ (peer.settle uniqueId outcome).handled = peer.handled ∧
      (peer.settle uniqueId outcome).outbox = peer.outbox := by
  unfold Peer.settle
  split <;> exact ⟨rfl, rfl, rfl⟩

theorem deliver_keeps (text : JsonText) (e : End η) (peer : Peer η) (frame : String) :
    (peer.deliver text e frame).1.calls = peer.calls ∧ peer.handled <+: (peer.deliver text e frame).1.handled ∧
      (peer.deliver text e frame).1.outbox = peer.outbox := by
  have settled : ∀ uniqueId outcome, (peer.settle uniqueId outcome).calls = peer.calls ∧
      peer.handled <+: (peer.settle uniqueId outcome).handled ∧
      (peer.settle uniqueId outcome).outbox = peer.outbox := by
    intro uniqueId outcome
    obtain ⟨calls, handled, outbox⟩ := settle_keeps peer uniqueId outcome
    exact ⟨calls, handled ▸ List.prefix_rfl, outbox⟩
  fun_cases Peer.deliver text e peer frame
  case case1 => exact ⟨rfl, List.prefix_rfl, rfl⟩
  case case2 => exact ⟨rfl, List.prefix_append _ _, rfl⟩
  case case6 => exact ⟨rfl, List.prefix_rfl, rfl⟩
  all_goals exact settled _ _

theorem loopStep_keeps {action : LoopAction} {inbound inbound' : List String} {message : Option Message}
    (stepped : peer.loopStep text e inbound action = some (peer', inbound', message)) :
    peer'.calls = peer.calls ∧ peer.handled <+: peer'.handled ∧ peer'.outbox <:+ peer.outbox := by
  revert stepped
  fun_cases Peer.loopStep text e peer inbound action <;> rintro ⟨⟩
  case case1 call outbox queued running =>
    refine ⟨rfl, List.prefix_rfl, ?_⟩
    rw [queued]
    exact List.suffix_cons call outbox
  case case3 frame running =>
    obtain ⟨calls, handled, outbox⟩ := deliver_keeps text e peer frame
    exact ⟨calls, handled, outbox ▸ List.suffix_rfl⟩
  all_goals exact ⟨rfl, List.prefix_rfl, List.suffix_rfl⟩

/-- What a step of a call does to the calls and the channel of its party. -/
structure CallStepped (e : End η) (peer peer' : Peer η) (c : Nat) (call : Option CallMessage) (state : CallState) :
    Prop where
  calls : peer'.calls = Function.update peer.calls c ⟨call, state⟩
  made : ∀ r, call = some r → (peer.calls c).request = some r ∨
    r.messageType = .call ∧ validated e.validator (·.validateCall r.action r.payload) = .ok ()
  queued : ∀ r ∈ peer'.outbox, r ∈ peer.outbox ∨ (peer.calls c).request = some r
  balance : peer'.outbox.length + peer.sent.length = peer.outbox.length + peer'.sent.length
  returned : ∀ r outcome, call = some r → state = .returned outcome →
    (∃ error ∈ e.ownErrors r, outcome = .error error) ∨
    ∃ answer, peer.inbox c = some answer ∧ (peer.calls c).request = some r ∧
      outcome = result e.validator r.action answer

theorem finish_stepped {call : CallMessage} {state : CallState} (made : (peer.calls c).request = some call)
    (returned : ∀ outcome, state = .returned outcome → (∃ error ∈ e.ownErrors call, outcome = .error error) ∨
      ∃ answer, peer.inbox c = some answer ∧ outcome = result e.validator call.action answer) :
    CallStepped e peer (peer.finish c call state) c (some call) state where
  calls := rfl
  made := by
    rintro r ⟨⟩
    exact .inl made
  queued := fun _ queued => .inl queued
  balance := rfl
  returned := by
    rintro r outcome ⟨⟩ ended
    obtain own | ⟨answer, handed, same⟩ := returned outcome ended
    · exact .inl own
    · exact .inr ⟨answer, handed, made, same⟩

theorem refused_stepped (state : CallState) : CallStepped e peer (peer.setCall c ⟨none, state⟩) c none state where
  calls := rfl
  made := nofun
  queued := fun _ queued => .inl queued
  balance := rfl
  returned := nofun

theorem begin_stepped {action : String} {payload : Json} {uniqueId : String} {reachable : Bool}
    (stepped : peer.begin e c action payload uniqueId reachable = some peer') :
    ∃ call state, CallStepped e peer peer' c call state := by
  revert stepped
  fun_cases Peer.begin e peer c action payload uniqueId reachable <;> rintro ⟨⟩
  case case1 | case4 => exact ⟨_, _, refused_stepped _⟩
  case case3 checked reached fresh =>
    refine ⟨some ⟨.call, uniqueId, action, payload⟩, .registered, rfl, ?_, fun _ queued => .inl queued, rfl, ?_⟩
    · rintro r ⟨⟩
      exact .inr ⟨rfl, checked⟩
    · intro r outcome made returned
      cases returned

theorem send_stepped {call : CallMessage} (made : (peer.calls c).request = some call) :
    CallStepped e peer ({ peer with
      outbox := peer.outbox ++ [call]
      sent := peer.sent ++ [call] }.setCall c ⟨some call, .waiting⟩) c (some call) .waiting where
  calls := rfl
  made := by
    rintro r ⟨⟩
    exact .inl made
  queued := by
    intro r queued
    obtain queued | here := List.mem_append.mp queued
    · exact .inl queued
    · exact .inr (List.mem_singleton.mp here ▸ made)
  balance := by
    simp only [Peer.setCall, List.length_append, List.length_singleton]
    omega
  returned := fun _ _ _ => nofun

theorem callStep_stepped {action : CallAction} (stepped : peer.callStep e c action = some peer') :
    ∃ call state, CallStepped e peer peer' c call state := by
  have own : ∀ {call error}, error ∈ e.ownErrors call → ∀ outcome,
      CallState.returned (.error error) = .returned outcome →
      (∃ error ∈ e.ownErrors call, outcome = .error error) ∨
        ∃ answer, peer.inbox c = some answer ∧ outcome = result e.validator call.action answer := by
    rintro call error member _ ⟨⟩
    exact .inl ⟨error, member, rfl⟩
  have abandoned : ∀ call, (peer.calls c).request = some call → ∃ call' state, CallStepped e peer
      (if e.guarded then peer.finish c call .abandoned else peer.setCall c ⟨some call, .abandoned⟩) c call'
      state := by
    intro call made
    split_ifs
    · exact ⟨_, _, finish_stepped made fun _ => nofun⟩
    · refine ⟨some call, .abandoned, rfl, ?_, fun _ queued => .inl queued, rfl, fun _ _ _ => nofun⟩
      rintro r ⟨⟩
      exact .inl made
  revert stepped
  fun_cases Peer.callStep e peer c action
  case case1 => exact begin_stepped
  all_goals
    intro stepped
    cases stepped
  case case3 call registered open_ => exact ⟨_, _, send_stepped (congrArg Call.request registered)⟩
  case case4 call registered closed =>
    exact ⟨_, _, finish_stepped (congrArg Call.request registered) (own (by simp [End.ownErrors]))⟩
  case case6 call waiting outcome handed =>
    refine ⟨_, _, finish_stepped (congrArg Call.request waiting) ?_⟩
    rintro _ ⟨⟩
    exact .inr ⟨outcome, handed, rfl⟩
  case case8 call waiting silent gone =>
    exact ⟨_, _, finish_stepped (congrArg Call.request waiting) (own (by simp [End.ownErrors]))⟩
  case case10 call waiting =>
    exact ⟨_, _, finish_stepped (congrArg Call.request waiting) (own (by simp [End.ownErrors]))⟩
  case case12 call registered => exact abandoned call (congrArg Call.request registered)
  case case13 call waiting => exact abandoned call (congrArg Call.request waiting)

end Peer

/-- A step leaves a party as it is, or is a step of one of its calls or of its loop. -/
theorem step_peer {action : Action} (stepped : step text ends s action = some t) (side : Side) :
    t.peers side = s.peers side ∨
    (∃ c action, (s.peers side).callStep (ends side) c action = some (t.peers side)) ∨
    ∃ action inbound message,
      (s.peers side).loopStep text (ends side) (s.wires side) action = some (t.peers side, inbound, message) := by
  cases action with
  | call side' c action =>
      obtain ⟨peer, acted, rfl⟩ := Option.map_eq_some_iff.mp stepped
      by_cases same : side = side'
      · subst same
        exact .inr (.inl ⟨c, action, by simpa using acted⟩)
      · exact .inl (Function.update_of_ne same ..)
  | loop side' action =>
      obtain ⟨⟨peer, inbound, message⟩, acted, rfl⟩ := Option.map_eq_some_iff.mp stepped
      by_cases same : side = side'
      · subst same
        exact .inr (.inr ⟨action, inbound, message, by simpa [Connection.write] using acted⟩)
      · exact .inl (Function.update_of_ne same ..)

theorem step_handled {action : Action} (stepped : step text ends s action = some t) (side : Side) :
    (s.peers side).handled <+: (t.peers side).handled := by
  obtain same | ⟨c, action, acted⟩ | ⟨action, inbound, message, acted⟩ := step_peer stepped side
  · exact same ▸ List.prefix_rfl
  · exact (callStep_keeps acted).2.2 ▸ List.prefix_rfl
  · exact (loopStep_keeps acted).2.1

theorem Returning.step (exchanging : Exchanging text ends start s) (inv : Returning ends s) {action : Action}
    (stepped : step text ends s action = some t) : Returning ends t := by
  intro side c call outcome returned
  have grown := (step_handled stepped side.other).subset
  have before : (s.peers side).calls c = ⟨some call, .returned outcome⟩ ∨
      (∃ e ∈ (ends side).ownErrors call, outcome = .error e) ∨
      ∃ answer, (s.peers side).inbox c = some answer ∧ ((s.peers side).calls c).request = some call ∧
        outcome = result (ends side).validator call.action answer := by
    obtain same | ⟨c', action, acted⟩ | ⟨action, inbound, message, acted⟩ := step_peer stepped side
    · exact .inl (same ▸ returned)
    · obtain ⟨call', state, moved⟩ := callStep_stepped acted
      rw [moved.calls] at returned
      by_cases here : c = c'
      · subst here
        rw [Function.update_self] at returned
        obtain ⟨rfl, rfl⟩ := Call.mk.inj returned
        exact .inr (moved.returned call outcome rfl rfl)
      · rw [Function.update_of_ne here] at returned
        exact .inl returned
    · rw [(loopStep_keeps acted).1] at returned
      exact .inl returned
  obtain before | own | ⟨answer, handed, made, same⟩ := before
  · obtain own | ⟨reply, answer, handled, read, same⟩ := inv side c call outcome before
    · exact .inl own
    · exact .inr ⟨reply, answer, grown handled, read, same⟩
  · exact .inl own
  · obtain ⟨request, reply, made', handled, read⟩ := (exchanging side).delivered c answer handed
    obtain rfl : call = request := Option.some.inj (made.symm.trans made')
    exact .inr ⟨reply, answer, grown handled, read, same⟩

/-- What the calls have made is a CALL by its type, as is all that is queued, and has passed the check of its party. -/
def CheckedCalls (ends : ∀ side, End (η side)) (s : Connection η) : Prop :=
  ∀ side, (∀ c call, ((s.peers side).calls c).request = some call → call.messageType = .call ∧
      validated (ends side).validator (·.validateCall call.action call.payload) = .ok ()) ∧
    ∀ call ∈ (s.peers side).outbox, call.messageType = .call

theorem CheckedCalls.step (inv : CheckedCalls ends s) {action : Action}
    (stepped : step text ends s action = some t) : CheckedCalls ends t := by
  intro side
  obtain ⟨checked, queued⟩ := inv side
  obtain same | ⟨c, action, acted⟩ | ⟨action, inbound, message, acted⟩ := step_peer stepped side
  · rw [same]
    exact ⟨checked, queued⟩
  · obtain ⟨call', state, moved⟩ := callStep_stepped acted
    refine ⟨fun c' call made => ?_, fun call member => ?_⟩
    · rw [moved.calls] at made
      by_cases here : c' = c
      · subst here
        rw [Function.update_self] at made
        exact (moved.made call made).elim (checked c' call) id
      · rw [Function.update_of_ne here] at made
        exact checked c' call made
    · exact (moved.queued call member).elim (queued call) fun made => (checked c call made).1
  · obtain ⟨calls, -, outbox⟩ := loopStep_keeps acted
    rw [calls]
    exact ⟨checked, fun call member => queued call (outbox.subset member)⟩

/-! ### What calls come to -/

/-- The other party has handled the first of the CALLs that were sent, each once and in their order, as its handler does
when it takes one after the other; and a call that has returned has an error of its own, or what the other party
answered to its CALL. -/
structure Corresponds (ends : ∀ side, End (η side)) (start : ∀ side, η side) (s : Connection η) (side : Side) :
    Prop where
  inOrder : (s.peers side.other).handled.map Prod.fst <+: (s.peers side).sent
  once : ((s.peers side).sent.map (·.uniqueId)).Nodup
  sequential : (s.peers side.other).handled = mapWith (fun state call =>
    ((call, ((ends side.other).handle state call).1), ((ends side.other).handle state call).2)) (start side.other)
      ((s.peers side.other).handled.map Prod.fst)
  returned : ∀ c call outcome, (s.peers side).calls c = ⟨some call, .returned outcome⟩ →
    (∃ e ∈ (ends side).ownErrors call, outcome = .error e) ∨
    ∃ reply answer, (call, some reply) ∈ (s.peers side.other).handled ∧
      response reply = some (call.uniqueId, answer) ∧ outcome = result (ends side).validator call.action answer

/-- What the steps of a connection keep. -/
structure Sound (text : JsonText) (ends : ∀ side, End (η side)) (start : ∀ side, η side) (s : Connection η) :
    Prop where
  exchanging : Exchanging text ends start s
  returning : Returning ends s
  checked : CheckedCalls ends s

theorem sound_new : Sound text ends start (.new start) where
  exchanging := exchanging_new
  returning := nofun
  checked := fun _ => ⟨nofun, nofun⟩

theorem Sound.step (inv : Sound text ends start s) {action : Action} (readable : Readable text ends s action)
    (stepped : step text ends s action = some t) : Sound text ends start t where
  exchanging := inv.exchanging.step readable stepped
  returning := inv.returning.step inv.exchanging stepped
  checked := inv.checked.step stepped

theorem Sound.handled (inv : Sound text ends start s) {side : Side} {call : CallMessage} {reply : Option Message}
    (handled : (call, reply) ∈ (s.peers side.other).handled) :
    ∃ reached, ((ends side.other).handle reached call).1 = reply := by
  rw [show (s.peers side.other).handled = _ from (inv.exchanging side).ran] at handled
  exact Service.mem_serveAll _ handled

theorem Sound.corresponds (inv : Sound text ends start s) (side : Side) : Corresponds ends start s side where
  inOrder := (List.prefix_append _ _).trans (inv.exchanging side).ordered
  once := (inv.exchanging side).once
  sequential := (inv.exchanging side).ran
  returned := inv.returning side

/-! ### Completion -/

def Exchanged (text : JsonText) (ends : ∀ side, End (η side)) (s : Connection η) : Prop :=
  ∀ side, (s.exchange text ends side).Complete (ends side.other).service

theorem exchanged_new : Exchanged text ends (.new start) := by
  intro side
  constructor <;> simp [Connection.exchange, exchange, Connection.new, Peer.new, PendingCallMap.new]

theorem Exchanged.step (inv : Sound text ends start s) (complete : Exchanged text ends s) {action : Action}
    (readable : Readable text ends s action) (calm : Calm ends s action)
    (stepped : step text ends s action = some t) : Exchanged text ends t := by
  intro side
  obtain same | moved := step_exchange true side (inv.exchanging side) readable (fun _ => calm) stepped
  · rw [same]
    exact complete side
  · exact (complete side).step (inv.exchanging side) moved

/-- Neither loop has anything left to do. -/
def Idle (text : JsonText) (ends : ∀ side, End (η side)) (s : Connection η) : Prop :=
  ∀ side, step text ends s (.loop side .flush) = none ∧ step text ends s (.loop side .deliver) = none

theorem Exchanged.idle (complete : Exchanged text ends s) (idle : Idle text ends s) (side : Side) :
    (s.peers side).outbox = [] ∧ s.wires side = [] := by
  have running : (s.peers side).running = true := (complete side).listening
  obtain ⟨flush, deliver⟩ := idle side
  constructor
  · cases queued : (s.peers side).outbox with
    | nil => rfl
    | cons call outbox => simp [Link.step, Peer.loopStep, running, queued] at flush
  · cases waiting : s.wires side with
    | nil => rfl
    | cons frame frames => simp [Link.step, Peer.loopStep, running, waiting] at deliver

theorem Exchanged.answered (inv : Sound text ends start s) (complete : Exchanged text ends s) (idle : Idle text ends s)
    {side : Side} (replies : ∀ state call, ((ends side.other).handle state call).1.isSome) {c : Nat}
    {call : CallMessage} (waiting : (s.peers side).calls c = ⟨some call, .waiting⟩) :
    ((s.peers side).inbox c).isSome := by
  obtain ⟨sent, -⟩ := complete.idle idle side
  obtain ⟨-, inbound⟩ := complete.idle idle side
  obtain ⟨-, outbound⟩ := complete.idle idle side.other
  refine (complete side).answered ?_ ?_ (congrArg Call.request waiting) ?_ ?_
  · simp [Connection.exchange, exchange, sent, outbound]
  · simp [Connection.exchange, exchange, inbound]
  · simp [Connection.exchange, exchange, waiting, CallState.stage]
  · intro reply handled
    obtain ⟨reached, rfl⟩ := inv.handled handled
    obtain ⟨answer, replied⟩ := Option.isSome_iff_exists.mp (replies reached call)
    have answers := ((ends side.other).answers reached call answer replied).1
    simp only [End.service, replied, Option.bind_some]
    cases answer with
    | call message => exact answers.elim
    | callResult message => rfl
    | callError message => rfl

/-! ### Loop steps -/

def End.weight {η : Type} (e : End η) (frame : String) : Nat :=
  if (e.readCall frame).isSome then 2 else 1

/-- The loop steps that are still to come for what waits on the way to a party or in its channel. -/
def load (ends : ∀ side, End (η side)) (s : Connection η) (side : Side) : Nat :=
  3 * (s.peers side).outbox.length + ((s.wires side).map (ends side).weight).sum

def Action.isLoop : Action → Bool
  | call _ _ _ => false
  | loop _ _ => true

theorem weight_bounds {η : Type} (e : End η) (frame : String) : 1 ≤ e.weight frame ∧ e.weight frame ≤ 2 := by
  unfold End.weight
  split_ifs <;> simp

theorem settle_sent {η : Type} {peer : Peer η} (uniqueId : String) (outcome : Outcome) :
    (peer.settle uniqueId outcome).sent = peer.sent := by
  unfold Peer.settle
  split <;> rfl

theorem deliver_load {η η' : Type} {e : End η} {reader : End η'} {peer : Peer η} {text : JsonText} {frame : String}
    (read : ∀ sent ∈ (peer.deliver text e frame).2, reader.classify (writeFrame text sent) = some sent) :
    (((peer.deliver text e frame).2.toList.map (writeFrame text)).map reader.weight).sum + 1 ≤ e.weight frame := by
  have least := (weight_bounds e frame).1
  revert read
  fun_cases Peer.deliver text e peer frame <;> intro read
  case case2 fits call classified reply state handled =>
    have heavy : e.weight frame = 2 := by
      simp [End.weight, readCall_of_classify classified, called]
    rw [heavy]
    cases answered : reply with
    | none => simp
    | some answer =>
        have replied : (e.handle peer.state call).1 = some answer := by rw [handled, answered]
        have uncalled : reader.readCall (writeFrame text answer) = none :=
          (readCall_of_classify (read answer answered)).trans
            (called_of_answers (e.answers peer.state call answer replied).1)
        simp [End.weight, uncalled]
  all_goals simpa using least

theorem deliver_sent {η : Type} {e : End η} {peer : Peer η} {text : JsonText} (frame : String) :
    (peer.deliver text e frame).1.sent = peer.sent := by
  fun_cases Peer.deliver text e peer frame
  case case3 | case4 | case5 => exact settle_sent _ _
  all_goals rfl

theorem loopStep_load {η η' : Type} {e : End η} {reader : End η'} {peer peer' : Peer η} {text : JsonText}
    {action : LoopAction} {inbound inbound' : List String} {message : Option Message}
    (stepped : peer.loopStep text e inbound action = some (peer', inbound', message))
    (read : ∀ sent ∈ message, reader.classify (writeFrame text sent) = some sent)
    (calm : CalmLoop e inbound action) :
    3 * peer'.outbox.length + (inbound'.map e.weight).sum +
        ((message.toList.map (writeFrame text)).map reader.weight).sum + 1 ≤
      3 * peer.outbox.length + (inbound.map e.weight).sum ∧ peer'.sent = peer.sent := by
  revert stepped
  fun_cases Peer.loopStep text e peer inbound action
  case case1 call outbox queued running =>
    rintro ⟨⟩
    have heavy := (weight_bounds reader (writeFrame text (.call call))).2
    rw [queued]
    refine ⟨?_, rfl⟩
    simp only [Option.toList_some, List.map_cons, List.map_nil, List.sum_cons, List.sum_nil, List.length_cons]
    omega
  case case3 frame frames running =>
    rintro ⟨⟩
    have light := deliver_load read
    have outbox := (deliver_keeps text e peer frame).2.2
    refine ⟨?_, deliver_sent frame⟩
    rw [outbox, List.map_cons, List.sum_cons]
    omega
  all_goals
    rintro ⟨⟩
    try exact calm.elim

theorem step_load {action : Action} (readable : Readable text ends s action) (calm : Calm ends s action)
    (stepped : step text ends s action = some t) :
    load ends t .chargePoint + load ends t .csms + (if action.isLoop then 1 else 0) +
        3 * ((s.peers .chargePoint).sent.length + (s.peers .csms).sent.length) ≤
      load ends s .chargePoint + load ends s .csms +
        3 * ((t.peers .chargePoint).sent.length + (t.peers .csms).sent.length) := by
  cases action with
  | call side c action =>
      obtain ⟨peer, acted, rfl⟩ := Option.map_eq_some_iff.mp stepped
      obtain ⟨call, state, moved⟩ := callStep_stepped acted
      have balance := moved.balance
      cases side <;> simp only [load, Action.isLoop, Function.update_self, ne_eq, reduceCtorEq, not_false_eq_true,
        Function.update_of_ne, Bool.false_eq_true, if_false] <;> omega
  | loop side action =>
      obtain ⟨⟨peer, inbound, message⟩, acted, rfl⟩ := Option.map_eq_some_iff.mp stepped
      have read : ∀ sent ∈ message, (ends side.other).classify (writeFrame text sent) = some sent := by
        rintro sent rfl
        exact readable peer inbound sent acted
      obtain ⟨lighter, sent⟩ := loopStep_load acted read calm
      cases side <;> simp only [load, Action.isLoop, Connection.write, Side.other, Function.update_self, ne_eq,
        reduceCtorEq, not_false_eq_true, Function.update_of_ne, if_true, List.map_append, List.sum_append,
        sent] at * <;> omega

/-! ### Texts that are read back -/

/-- The text of a message that a step writes is read back as the value it was printed from. -/
def ReadBack (text : JsonText) (ends : ∀ side, End (η side)) (s : Connection η) : Action → Prop
  | .call _ _ _ => True
  | .loop side action => ∀ peer inbound message,
      (s.peers side).loopStep text (ends side) (s.wires side) action = some (peer, inbound, some message) →
        text.parse (writeFrame text message) = .ok message.toJson

/-- Either party reads a message in a text that is read back. -/
def Reads (text : JsonText) (ends : ∀ side, End (η side)) : Prop :=
  ∀ side message, message.Typed → text.parse (writeFrame text message) = .ok message.toJson →
    (ends side).classify (writeFrame text message) = some message

theorem deliver_typed {η : Type} {e : End η} {peer : Peer η} {text : JsonText} {frame : String} {message : Message}
    (written : (peer.deliver text e frame).2 = some message) : message.Typed := by
  revert written
  fun_cases Peer.deliver text e peer frame <;> intro written
  case case2 fits call classified reply state handled =>
    exact (e.answers peer.state call message (by rw [handled, ← written])).2
  all_goals cases written

theorem loopStep_typed {η : Type} {e : End η} {peer peer' : Peer η} {text : JsonText} {action : LoopAction}
    {inbound inbound' : List String} {message : Message}
    (stepped : peer.loopStep text e inbound action = some (peer', inbound', some message))
    (typed : ∀ call ∈ peer.outbox, call.messageType = .call) : message.Typed := by
  revert stepped
  fun_cases Peer.loopStep text e peer inbound action
  case case1 call outbox queued running =>
    rintro ⟨⟩
    exact typed call (queued ▸ List.mem_cons_self)
  case case3 frame frames running =>
    intro stepped
    simp only [Option.some.injEq, Prod.mk.injEq] at stepped
    exact deliver_typed stepped.2.2
  all_goals rintro ⟨⟩

theorem CheckedCalls.readable (checked : CheckedCalls ends s) (reads : Reads text ends) {action : Action}
    (readBack : ReadBack text ends s action) : Readable text ends s action := by
  cases action with
  | call side c action => trivial
  | loop side action =>
      intro peer inbound message acted
      exact reads side.other message (loopStep_typed acted (checked side).2) (readBack peer inbound message acted)

theorem sound_run (reads : Reads text ends)
    (readBack : Along (step text ends) (ReadBack text ends) (.new start) actions)
    (ran : run (step text ends) (.new start) actions = some s) : Sound text ends start s :=
  run_invariant (fun _ _ _ inv readBack stepped => inv.step (inv.checked.readable reads readBack) stepped) sound_new
    readBack ran

section Calm

variable (reads : Reads text ends)
  (calm : Along (step text ends) (fun s action => ReadBack text ends s action ∧ Calm ends s action) (.new start)
    actions)
  (ran : run (step text ends) (.new start) actions = some s)
include reads calm ran

theorem calm_run : Sound text ends start s ∧ Exchanged text ends s := by
  have kept : ∀ s action t, Sound text ends start s ∧ Exchanged text ends s →
      ReadBack text ends s action ∧ Calm ends s action → step text ends s action = some t →
        Sound text ends start t ∧ Exchanged text ends t := by
    rintro s action t ⟨sound, complete⟩ ⟨readBack, calm⟩ stepped
    have readable := sound.checked.readable reads readBack
    exact ⟨sound.step readable stepped, complete.step sound readable calm stepped⟩
  exact run_invariant kept ⟨sound_new, exchanged_new⟩ calm ran

/-- The loops take at most three steps for a CALL that is sent: to write it, to handle it and to settle its answer. -/
theorem calm_loops : actions.countP Action.isLoop ≤
    3 * ((s.peers .chargePoint).sent.length + (s.peers .csms).sent.length) := by
  have spent := run_countP Action.isLoop (fun s => load ends s .chargePoint + load ends s .csms)
    (fun s => 3 * ((s.peers .chargePoint).sent.length + (s.peers .csms).sent.length))
    (fun s action t inv condition stepped => inv.step (inv.checked.readable reads condition.1) stepped)
    (fun s action t inv condition stepped =>
      step_load (inv.checked.readable reads condition.1) condition.2 stepped) sound_new calm ran
  have fresh : load ends (Connection.new start) .chargePoint + load ends (Connection.new start) .csms = 0 := rfl
  simp only [fresh] at spent
  omega

end Calm

end Run
end Ocpp.Transport.Link
