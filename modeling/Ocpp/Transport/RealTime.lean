import Ocpp.Transport.Conversation

/-!
# Calls one after the other

A call is answered in the state that the CALLs sent before it lead to, and a call that begins once another has been sent
is handled after it.
-/

namespace Ocpp.Transport.Link
open Library

section Peer

variable {η η' : Type} {e : End η} {peer peer' : Peer η} {c : Nat} {text : JsonText}

/-- What a step leaves of the CALLs that were sent and of the ids that were drawn. -/
structure Later (peer peer' : Peer η) : Prop where
  sent : peer.sent <+: peer'.sent
  issued : ∀ id ∈ peer.issued, id ∈ peer'.issued
  made : ∀ c call, (peer'.calls c).request = some call →
    (peer.calls c).request = some call ∨ call.uniqueId ∉ peer.issued

theorem Later.of_eq (sent : peer'.sent = peer.sent) (issued : peer'.issued = peer.issued)
    (calls : peer'.calls = peer.calls) : Later peer peer' where
  sent := sent ▸ List.prefix_rfl
  issued := fun _ member => issued ▸ member
  made := fun _ _ made => .inl (calls ▸ made)

theorem setCall_later {call : Option CallMessage} {state : CallState} {changed : Peer η}
    (same : changed.calls = peer.calls) (sent : peer.sent <+: changed.sent)
    (issued : ∀ id ∈ peer.issued, id ∈ changed.issued)
    (made : ∀ r, call = some r → (peer.calls c).request = some r ∨ r.uniqueId ∉ peer.issued) :
    Later peer (changed.setCall c ⟨call, state⟩) where
  sent := sent
  issued := issued
  made := by
    intro c' r here
    simp only [Peer.setCall, same] at here
    by_cases own : c' = c
    · subst own
      rw [Function.update_self] at here
      exact made r here
    · rw [Function.update_of_ne own] at here
      exact .inl here

theorem callStep_later {action : CallAction} (stepped : peer.callStep e c action = some peer') : Later peer peer' := by
  have own : ∀ {call : CallMessage}, (peer.calls c).request = some call → ∀ r, some call = some r →
      (peer.calls c).request = some r ∨ r.uniqueId ∉ peer.issued := by
    rintro call made _ ⟨⟩
    exact .inl made
  have finished : ∀ {call : CallMessage} (state : CallState), (peer.calls c).request = some call →
      Later peer (peer.finish c call state) :=
    fun state made => setCall_later rfl List.prefix_rfl (fun _ member => member) (own made)
  revert stepped
  fun_cases Peer.callStep e peer c action
  case case1 action payload uniqueId reachable idle =>
    fun_cases Peer.begin e peer c action payload uniqueId reachable <;> rintro ⟨⟩
    case case3 checked reached fresh =>
      refine setCall_later rfl List.prefix_rfl (fun _ => List.mem_cons_of_mem _) ?_
      rintro _ ⟨⟩
      exact .inr fresh
    all_goals exact setCall_later rfl List.prefix_rfl (fun _ member => member) (by simp)
  all_goals
    intro stepped
    cases stepped
  case case3 call registered open_ =>
    exact setCall_later rfl (List.prefix_append _ _) (fun _ member => member) (own (congrArg Call.request registered))
  case case4 call registered closed => exact finished _ (congrArg Call.request registered)
  case case6 call waiting outcome handed => exact finished _ (congrArg Call.request waiting)
  case case8 call waiting silent gone => exact finished _ (congrArg Call.request waiting)
  case case10 call waiting => exact finished _ (congrArg Call.request waiting)
  case case12 call registered =>
    split_ifs
    · exact finished _ (congrArg Call.request registered)
    · exact setCall_later rfl List.prefix_rfl (fun _ member => member) (own (congrArg Call.request registered))
  case case13 call waiting =>
    split_ifs
    · exact finished _ (congrArg Call.request waiting)
    · exact setCall_later rfl List.prefix_rfl (fun _ member => member) (own (congrArg Call.request waiting))

theorem settle_issued (uniqueId : String) (outcome : Outcome) :
    (peer.settle uniqueId outcome).issued = peer.issued := by
  unfold Peer.settle
  split <;> rfl

theorem deliver_issued (frame : String) : (peer.deliver text e frame).1.issued = peer.issued := by
  fun_cases Peer.deliver text e peer frame
  case case3 | case4 | case5 => exact settle_issued _ _
  all_goals rfl

theorem loopStep_later {action : LoopAction} {inbound inbound' : List String} {message : Option Message}
    (stepped : peer.loopStep text e inbound action = some (peer', inbound', message)) : Later peer peer' := by
  have calls := (loopStep_keeps stepped).1
  revert stepped
  fun_cases Peer.loopStep text e peer inbound action <;> rintro ⟨⟩
  case case3 frame running => exact .of_eq (deliver_sent frame) (deliver_issued frame) calls
  all_goals exact .of_eq rfl rfl rfl

end Peer

section Run

variable {η : Side → Type} {text : JsonText} {ends : ∀ side, End (η side)} {start : ∀ side, η side}
  {s t : Connection η} {actions : List Action}

theorem step_later {action : Action} (stepped : step text ends s action = some t) (side : Side) :
    Later (s.peers side) (t.peers side) := by
  obtain same | ⟨c, action, acted⟩ | ⟨action, inbound, message, acted⟩ := step_peer stepped side
  · exact .of_eq (congrArg Peer.sent same) (congrArg Peer.issued same) (congrArg Peer.calls same)
  · exact callStep_later acted
  · exact loopStep_later acted

theorem run_later (ran : run (step text ends) s actions = some t) (side : Side) :
    Later (s.peers side) (t.peers side) := by
  induction actions generalizing s with
  | nil =>
      obtain rfl := Option.some.inj ran
      exact .of_eq rfl rfl rfl
  | cons action rest ih =>
      obtain ⟨u, stepped, rest⟩ := Option.bind_eq_some_iff.mp ran
      have first := step_later stepped side
      have later := ih rest
      refine ⟨first.sent.trans later.sent, fun id drawn => later.issued id (first.issued id drawn), ?_⟩
      intro c call made
      obtain before | fresh := later.made c call made
      · exact first.made c call before
      · exact .inr fun drawn => fresh (first.issued _ drawn)

/-- A CALL that a call has made since then was not sent before. -/
theorem not_sent_before (sound : Sound text ends start s) (ran : run (step text ends) s actions = some t) {side : Side}
    {c : Nat} {call : CallMessage} (idle : ((s.peers side).calls c).state = .idle)
    (made : ((t.peers side).calls c).request = some call) : call ∉ (s.peers side).sent := by
  intro sent
  have inv := sound.exchanging side
  obtain ⟨c', request, -⟩ := inv.origin call sent
  have drawn : call.uniqueId ∈ (s.peers side).issued := inv.issued c' call request
  obtain before | fresh := (run_later ran side).made c call made
  · have unmade : ((s.peers side).calls c).request = none := inv.idle c (by simp [Connection.exchange, exchange, idle,
      CallState.stage])
    rw [unmade] at before
    cases before
  · exact fresh drawn

theorem prefix_of_not_mem {α : Type*} {first before whole : List α} {x : α} (initial : first <+: whole)
    (split : before ++ [x] <+: whole) (absent : x ∉ first) : first <+: before := by
  obtain shorter | longer := List.prefix_or_prefix_of_prefix initial split
  · obtain rfl | shorter := List.prefix_concat_iff.mp shorter
    · simp at absent
    · exact shorter
  · exact absurd (longer.subset (by simp)) absent

/-- A call that has returned a payload has its CALL answered in the state that the CALLs sent before it have led to. -/
theorem Sound.answered_after (sound : Sound text ends start s) {side : Side} {c : Nat} {call : CallMessage}
    {payload : Json} (returned : (s.peers side).calls c = ⟨some call, .returned (.ok payload)⟩) :
    ∃ before reply, before ++ [call] <+: (s.peers side).sent ∧
      ((ends side.other).handle ((ends side.other).service.after (start side.other) before) call).1 = some reply ∧
      ∃ answer, response reply = some (call.uniqueId, answer) ∧
        .ok payload = result (ends side).validator call.action answer := by
  have inv := sound.exchanging side
  obtain ⟨e, -, own⟩ | ⟨reply, answer, handled, read, same⟩ := sound.returning side c call _ returned
  · cases own
  · rw [show (s.peers side.other).handled = _ from inv.ran] at handled
    obtain ⟨before, later, split, replied⟩ := Service.serveAll_split _ handled
    have ordered : before ++ call :: later <+: (s.peers side).sent := split ▸ (sound.corresponds side).inOrder
    refine ⟨before, reply, ?_, replied, answer, read, same⟩
    exact List.IsPrefix.trans ⟨later, by simp⟩ ordered

end Run

end Ocpp.Transport.Link
