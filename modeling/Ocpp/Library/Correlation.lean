import Mathlib.Data.List.Nodup
import Mathlib.Logic.Function.Basic
import Ocpp.Library.Iterator

/-!
# Correlated exchanges

The calls of one party and the service that answers them. Requests wait in one queue and replies in another, and a
reply goes to the call that is pending under its id. Either party may stop reading for good.
-/

namespace Ocpp.Library

variable {ι ρ β ω η : Type}

structure Service (ι ρ β ω η : Type) where
  requestId : ρ → ι
  serve : η → ρ → Option β × η
  /-- The id that a reply is under, and what it says. -/
  response : β → Option (ι × ω)
  answers : ∀ state request reply id outcome, (serve state request).1 = some reply →
    response reply = some (id, outcome) → id = requestId request

namespace Service

variable (service : Service ι ρ β ω η)

def respond (state : η) (request : ρ) : Option (ι × ω) :=
  (service.serve state request).1.bind service.response

/-- The requests with their replies, served one after the other. -/
def serveAll (state : η) (requests : List ρ) : List (ρ × Option β) :=
  mapWith (fun state request => ((request, (service.serve state request).1), (service.serve state request).2)) state
    requests

def after (state : η) (requests : List ρ) : η :=
  requests.foldl (fun state request => (service.serve state request).2) state

theorem serveAll_concat (state : η) (requests : List ρ) (request : ρ) :
    service.serveAll state (requests ++ [request]) = service.serveAll state requests ++
      [(request, (service.serve (service.after state requests) request).1)] := by
  induction requests generalizing state with
  | nil => rfl
  | cons first rest ih => exact congrArg _ (ih _)

theorem after_concat (state : η) (requests : List ρ) (request : ρ) :
    service.after state (requests ++ [request]) = (service.serve (service.after state requests) request).2 := by
  simp [after]

theorem mem_serveAll {state : η} {requests : List ρ} {request : ρ} {reply : Option β}
    (served : (request, reply) ∈ service.serveAll state requests) :
    ∃ reached, (service.serve reached request).1 = reply := by
  induction requests generalizing state with
  | nil => cases served
  | cons first rest ih =>
      obtain here | later := List.mem_cons.mp served
      · injection here with same replied
        exact ⟨state, same ▸ replied.symm⟩
      · exact ih later

/-- A request was served in the state that the requests before it had led to. -/
theorem serveAll_split {state : η} {requests : List ρ} {request : ρ} {reply : Option β}
    (served : (request, reply) ∈ service.serveAll state requests) :
    ∃ before later, requests = before ++ request :: later ∧
      (service.serve (service.after state before) request).1 = reply := by
  induction requests generalizing state with
  | nil => cases served
  | cons first rest ih =>
      obtain here | later := List.mem_cons.mp served
      · injection here with same replied
        exact ⟨[], rest, by rw [same]; rfl, same ▸ replied.symm⟩
      · obtain ⟨before, later, split, replied⟩ := ih later
        exact ⟨first :: before, later, by rw [split]; rfl, replied⟩

/-- A part of the state that each request changes in its own way is changed by the requests in turn. -/
theorem after_view {γ : Type} (view : η → γ) (change : γ → ρ → γ)
    (each : ∀ state request, view (service.serve state request).2 = change (view state) request) (state : η)
    (requests : List ρ) : view (service.after state requests) = requests.foldl change (view state) := by
  induction requests generalizing state with
  | nil => rfl
  | cons first rest ih => exact (ih _).trans (congrArg (rest.foldl change) (each state first))

/-- What each request adds to a record in the state is added in the order in which the requests are served. -/
theorem after_record {γ : Type} (record : η → List γ) (adds : ρ × Option β → List γ)
    (each : ∀ state request, record (service.serve state request).2 =
      record state ++ adds (request, (service.serve state request).1)) (state : η) (requests : List ρ) :
    record (service.after state requests) = record state ++ (service.serveAll state requests).flatMap adds := by
  induction requests generalizing state with
  | nil => exact (List.append_nil _).symm
  | cons first rest ih =>
      have later := ih (service.serve state first).2
      rw [each, List.append_assoc] at later
      exact later

end Service

inductive Stage
  | idle
  | registered
  | waiting
  | ended
deriving DecidableEq

@[ext] structure Exchange (ι ρ β ω η : Type) where
  requests : Nat → Option ρ
  stage : Nat → Stage
  pending : ι → Option Nat
  inbox : Nat → Option ω
  issued : List ι
  sent : List ρ
  queue : List ρ
  serving : Bool
  state : η
  served : List (ρ × Option β)
  replies : List (ι × ω)
  listening : Bool

namespace Exchange

/-- What the parties do with one call or one message. A quiet step neither drops the pending calls nor makes a party
stop reading. -/
inductive Step [DecidableEq ι] (service : Service ι ρ β ω η) (s : Exchange ι ρ β ω η) :
    Bool → Exchange ι ρ β ω η → Prop
  | register {quiet : Bool} (c : Nat) (request : ρ) (idle : s.stage c = .idle)
      (fresh : service.requestId request ∉ s.issued) :
      Step service s quiet
        { s with
          requests := Function.update s.requests c (some request)
          stage := Function.update s.stage c .registered
          pending := Function.update s.pending (service.requestId request) (some c)
          issued := service.requestId request :: s.issued }
  | send {quiet : Bool} (c : Nat) (request : ρ) (registered : s.stage c = .registered)
      (made : s.requests c = some request) :
      Step service s quiet
        { s with
          stage := Function.update s.stage c .waiting
          sent := s.sent ++ [request]
          queue := if s.serving then s.queue ++ [request] else s.queue }
  | serve {quiet : Bool} (request : ρ) (queue : List ρ) (first : s.queue = request :: queue)
      (serving : s.serving) :
      Step service s quiet
        { s with
          queue := queue
          state := (service.serve s.state request).2
          served := s.served ++ [(request, (service.serve s.state request).1)]
          replies := if s.listening then s.replies ++ (service.respond s.state request).toList else s.replies }
  | settle {quiet : Bool} (reply : ι × ω) (replies : List (ι × ω)) (first : s.replies = reply :: replies) :
      Step service s quiet
        { s with
          replies := replies
          pending := Function.update s.pending reply.1 none
          inbox := match s.pending reply.1 with
            | some c => Function.update s.inbox c (some reply.2)
            | none => s.inbox }
  | finish {quiet : Bool} (c : Nat) (pending : ι → Option Nat)
      (kept : ∀ id c', c' ≠ c → s.pending id = some c' → pending id = some c')
      (fewer : ∀ id c', pending id = some c' → s.pending id = some c') :
      Step service s quiet { s with stage := Function.update s.stage c .ended, pending := pending }
  | cancel : Step service s false { s with pending := fun _ => none }
  | stopServing : Step service s false { s with serving := false, queue := [] }
  | stopListening : Step service s false { s with listening := false, replies := [] }

/-- The service has served the first of the requests that were sent, in their order, and each call can only be handed
what was replied to its own request. -/
structure Inv (service : Service ι ρ β ω η) (start : η) (s : Exchange ι ρ β ω η) : Prop where
  issued : ∀ c request, s.requests c = some request → service.requestId request ∈ s.issued
  idle : ∀ c, s.stage c = .idle → s.requests c = none
  distinct : ∀ c c' request request', s.requests c = some request → s.requests c' = some request' →
    service.requestId request = service.requestId request' → c = c'
  entries : ∀ id c, s.pending id = some c → ∃ request,
    s.requests c = some request ∧ service.requestId request = id
  origin : ∀ request ∈ s.sent, ∃ c, s.requests c = some request ∧ s.stage c ≠ .registered
  once : (s.sent.map service.requestId).Nodup
  ordered : s.served.map Prod.fst ++ s.queue <+: s.sent
  whole : s.serving → s.served.map Prod.fst ++ s.queue = s.sent
  ran : s.served = service.serveAll start (s.served.map Prod.fst)
  reached : s.state = service.after start (s.served.map Prod.fst)
  replied : ∀ read ∈ s.replies, ∃ request reply,
    (request, some reply) ∈ s.served ∧ service.response reply = some read
  delivered : ∀ c outcome, s.inbox c = some outcome → ∃ request reply, s.requests c = some request ∧
    (request, some reply) ∈ s.served ∧ service.response reply = some (service.requestId request, outcome)

/-- A call that waits has its reply, or the reply is still to come. -/
structure Complete (service : Service ι ρ β ω η) (s : Exchange ι ρ β ω η) : Prop where
  serving : s.serving
  listening : s.listening
  sent : ∀ c request, s.requests c = some request → s.stage c = .waiting → request ∈ s.sent
  awaited : ∀ c request, s.requests c = some request → s.stage c = .registered ∨ s.stage c = .waiting →
    (s.inbox c).isSome ∨ s.pending (service.requestId request) = some c
  coming : ∀ c request, s.pending (service.requestId request) = some c → request ∈ s.sent →
    request ∈ s.queue ∨ (∃ outcome, (service.requestId request, outcome) ∈ s.replies) ∨
      ∃ reply, (request, reply) ∈ s.served ∧ reply.bind service.response = none

variable {service : Service ι ρ β ω η} {start : η} {s t : Exchange ι ρ β ω η} {quiet : Bool}

theorem Step.of_eq [DecidableEq ι] {t' : Exchange ι ρ β ω η} (stepped : s.Step service quiet t) (same : t' = t) :
    s.Step service quiet t' :=
  same ▸ stepped

namespace Inv

variable (inv : s.Inv service start)
include inv

theorem mem_sent {request : ρ} {reply : Option β} (served : (request, reply) ∈ s.served) : request ∈ s.sent :=
  inv.ordered.subset (List.mem_append_left _ (List.mem_map_of_mem served))

/-- The reply that was given under the id of a call was given to its request. -/
theorem served_own {c : Nat} {request request' : ρ} {reply : β} {outcome : ω} (made : s.requests c = some request)
    (served : (request', some reply) ∈ s.served)
    (read : service.response reply = some (service.requestId request, outcome)) :
    (request, some reply) ∈ s.served := by
  have answered : service.requestId request = service.requestId request' := by
    rw [inv.ran] at served
    obtain ⟨reached, replied⟩ := service.mem_serveAll served
    exact service.answers reached request' reply _ outcome replied read
  obtain ⟨c', made', -⟩ := inv.origin request' (inv.mem_sent served)
  obtain rfl := inv.distinct c c' request request' made made' answered
  obtain rfl : request = request' := Option.some.inj (made.symm.trans made')
  exact served

theorem unsent {c : Nat} {request : ρ} (made : s.requests c = some request) (registered : s.stage c = .registered) :
    service.requestId request ∉ s.sent.map service.requestId := by
  intro asked
  obtain ⟨request', member, same⟩ := List.mem_map.mp asked
  obtain ⟨c', made', other⟩ := inv.origin request' member
  obtain rfl := inv.distinct c' c request' request made' made same
  exact other registered

theorem send {c : Nat} {request : ρ} (registered : s.stage c = .registered) (made : s.requests c = some request) :
    Inv service start
      { s with
        stage := Function.update s.stage c .waiting
        sent := s.sent ++ [request]
        queue := if s.serving then s.queue ++ [request] else s.queue } :=
  { inv with
    idle := by
      intro c' now
      by_cases same : c' = c
      · subst same
        simp at now
      · simp only [Function.update_of_ne same] at now
        exact inv.idle c' now
    origin := by
      intro request' member
      obtain member | new := List.mem_append.mp member
      · obtain ⟨c', made', other⟩ := inv.origin request' member
        refine ⟨c', made', ?_⟩
        have different : c' ≠ c := by
          rintro rfl
          exact other registered
        simpa only [Function.update_of_ne different] using other
      · obtain rfl := List.mem_singleton.mp new
        exact ⟨c, made, by simp⟩
    once := by
      rw [List.map_append, List.map_singleton, ← List.concat_eq_append]
      exact inv.once.concat (inv.unsent made registered)
    ordered := by
      split_ifs with serving
      · simp only [← List.append_assoc, inv.whole serving, List.prefix_rfl]
      · exact inv.ordered.trans (List.prefix_append _ _)
    whole := by
      intro serving
      rw [if_pos serving, ← List.append_assoc, inv.whole serving] }

theorem serve {request : ρ} {queue : List ρ} (first : s.queue = request :: queue) :
    Inv service start
      { s with
        queue := queue
        state := (service.serve s.state request).2
        served := s.served ++ [(request, (service.serve s.state request).1)]
        replies := if s.listening then s.replies ++ (service.respond s.state request).toList else s.replies } := by
  have moved : (s.served ++ [(request, (service.serve s.state request).1)]).map Prod.fst ++ queue =
      s.served.map Prod.fst ++ s.queue := by
    simp [first]
  exact { inv with
    ordered := moved ▸ inv.ordered
    whole := fun serving => moved.trans (inv.whole serving)
    ran := by
      rw [List.map_append, List.map_singleton, service.serveAll_concat, ← inv.ran, ← inv.reached]
    reached := by
      rw [List.map_append, List.map_singleton, service.after_concat, ← inv.reached]
    replied := by
      intro read member
      have choices : read ∈ s.replies ∨ service.respond s.state request = some read := by
        split_ifs at member with listening
        · simpa using member
        · exact .inl member
      obtain earlier | now := choices
      · obtain ⟨request', reply, served, same⟩ := inv.replied read earlier
        exact ⟨request', reply, List.mem_append_left _ served, same⟩
      · obtain ⟨reply, served, same⟩ := Option.bind_eq_some_iff.mp now
        refine ⟨request, reply, List.mem_append_right _ ?_, same⟩
        rw [served]
        exact List.mem_singleton_self _
    delivered := by
      intro c outcome handed
      obtain ⟨request', reply, made, served, same⟩ := inv.delivered c outcome handed
      exact ⟨request', reply, made, List.mem_append_left _ served, same⟩ }

theorem finish {c : Nat} {pending : ι → Option Nat}
    (fewer : ∀ id c', pending id = some c' → s.pending id = some c') :
    Inv service start { s with stage := Function.update s.stage c .ended, pending := pending } :=
  { inv with
    idle := by
      intro c' now
      by_cases same : c' = c
      · subst same
        simp at now
      · simp only [Function.update_of_ne same] at now
        exact inv.idle c' now
    entries := fun id c' found => inv.entries id c' (fewer id c' found)
    origin := by
      intro request member
      obtain ⟨c', made, other⟩ := inv.origin request member
      refine ⟨c', made, ?_⟩
      by_cases same : c' = c
      · simp [same]
      · simpa only [Function.update_of_ne same] using other }

variable [DecidableEq ι]

theorem register {c : Nat} {request : ρ} (idle : s.stage c = .idle) (fresh : service.requestId request ∉ s.issued) :
    Inv service start
      { s with
        requests := Function.update s.requests c (some request)
        stage := Function.update s.stage c .registered
        pending := Function.update s.pending (service.requestId request) (some c)
        issued := service.requestId request :: s.issued } := by
  have absent := inv.idle c idle
  have older : ∀ c' request', s.requests c' = some request' →
      c' ≠ c ∧ service.requestId request' ≠ service.requestId request := by
    intro c' request' made
    constructor
    · rintro rfl
      rw [absent] at made
      cases made
    · intro same
      exact fresh (same ▸ inv.issued c' request' made)
  have requests : ∀ c' request', Function.update s.requests c (some request) c' = some request' →
      c' = c ∧ request' = request ∨ s.requests c' = some request' := by
    intro c' request' made
    by_cases same : c' = c
    · subst same
      rw [Function.update_self] at made
      exact .inl ⟨rfl, (Option.some.inj made).symm⟩
    · rw [Function.update_of_ne same] at made
      exact .inr made
  have kept : ∀ c' request', s.requests c' = some request' →
      Function.update s.requests c (some request) c' = some request' := by
    intro c' request' made
    rw [Function.update_of_ne (older c' request' made).1]
    exact made
  exact { inv with
    issued := by
      intro c' request' made
      obtain ⟨-, rfl⟩ | made := requests c' request' made
      · exact List.mem_cons_self
      · exact List.mem_cons_of_mem _ (inv.issued c' request' made)
    idle := by
      intro c' now
      by_cases same : c' = c
      · subst same
        simp at now
      · simp only [Function.update_of_ne same] at now ⊢
        exact inv.idle c' now
    distinct := by
      intro c₁ c₂ request₁ request₂ made₁ made₂ same
      obtain ⟨first, rfl⟩ | earlier₁ := requests c₁ request₁ made₁
      · obtain ⟨second, -⟩ | earlier₂ := requests c₂ request₂ made₂
        · exact first.trans second.symm
        · exact absurd same.symm (older c₂ request₂ earlier₂).2
      · obtain ⟨-, rfl⟩ | earlier₂ := requests c₂ request₂ made₂
        · exact absurd same (older c₁ request₁ earlier₁).2
        · exact inv.distinct c₁ c₂ request₁ request₂ earlier₁ earlier₂ same
    entries := by
      intro id c' found
      by_cases same : id = service.requestId request
      · subst same
        obtain rfl : c = c' := by simpa using found
        exact ⟨request, Function.update_self .., rfl⟩
      · simp only [Function.update_of_ne same] at found
        obtain ⟨request', made, correlated⟩ := inv.entries id c' found
        exact ⟨request', kept c' request' made, correlated⟩
    origin := by
      intro request' member
      obtain ⟨c', made, other⟩ := inv.origin request' member
      refine ⟨c', kept c' request' made, ?_⟩
      simpa only [Function.update_of_ne (older c' request' made).1] using other
    delivered := by
      intro c' outcome handed
      obtain ⟨request', reply, made, served, same⟩ := inv.delivered c' outcome handed
      exact ⟨request', reply, kept c' request' made, served, same⟩ }

theorem settle {reply : ι × ω} {replies : List (ι × ω)} (first : s.replies = reply :: replies) :
    Inv service start
      { s with
        replies := replies
        pending := Function.update s.pending reply.1 none
        inbox := match s.pending reply.1 with
          | some c => Function.update s.inbox c (some reply.2)
          | none => s.inbox } :=
  { inv with
    entries := by
      intro id c found
      by_cases same : id = reply.1
      · subst same
        simp at found
      · simp only [Function.update_of_ne same] at found
        exact inv.entries id c found
    replied := fun other member => inv.replied other (first ▸ List.mem_cons_of_mem _ member)
    delivered := by
      intro c outcome handed
      cases found : s.pending reply.1 with
      | none =>
          rw [found] at handed
          exact inv.delivered c outcome handed
      | some c' =>
          rw [found] at handed
          by_cases same : c = c'
          · subst same
            obtain rfl : reply.2 = outcome := by simpa using handed
            obtain ⟨request, made, correlated⟩ := inv.entries reply.1 c found
            obtain ⟨request', message, served, read⟩ := inv.replied reply (first ▸ List.mem_cons_self)
            have own : service.response message = some (service.requestId request, reply.2) := by
              rw [correlated]
              exact read
            exact ⟨request, message, made, inv.served_own made served own, own⟩
          · simp only [Function.update_of_ne same] at handed
            exact inv.delivered c outcome handed }

theorem step (stepped : s.Step service quiet t) : t.Inv service start := by
  cases stepped with
  | register c request idle fresh => exact inv.register idle fresh
  | send c request registered made => exact inv.send registered made
  | serve request queue first serving => exact inv.serve first
  | settle reply replies first => exact inv.settle first
  | finish c pending kept fewer => exact inv.finish fewer
  | cancel => exact { inv with entries := fun _ _ => nofun }
  | stopServing =>
      exact { inv with
        ordered := by
          rw [List.append_nil]
          exact (List.prefix_append _ _).trans inv.ordered
        whole := nofun }
  | stopListening => exact { inv with replied := nofun }

end Inv

namespace Complete

variable (complete : s.Complete service)
include complete

theorem send {c : Nat} {request : ρ} (registered : s.stage c = .registered) (made : s.requests c = some request) :
    Complete service
      { s with
        stage := Function.update s.stage c .waiting
        sent := s.sent ++ [request]
        queue := if s.serving then s.queue ++ [request] else s.queue } := by
  rw [if_pos complete.serving]
  exact { complete with
    sent := by
      intro c' request' made' waiting
      by_cases same : c' = c
      · subst same
        obtain rfl := Option.some.inj (made.symm.trans made')
        exact List.mem_append_right _ (List.mem_singleton_self _)
      · simp only [Function.update_of_ne same] at waiting
        exact List.mem_append_left _ (complete.sent c' request' made' waiting)
    awaited := by
      intro c' request' made' underway
      by_cases same : c' = c
      · subst same
        exact complete.awaited c' request' made' (.inl registered)
      · simp only [Function.update_of_ne same] at underway
        exact complete.awaited c' request' made' underway
    coming := by
      intro c' request' found member
      obtain member | new := List.mem_append.mp member
      · exact (complete.coming c' request' found member).imp_left (List.mem_append_left _)
      · exact .inl (List.mem_append_right _ new) }

theorem serve {request : ρ} {queue : List ρ} (first : s.queue = request :: queue) :
    Complete service
      { s with
        queue := queue
        state := (service.serve s.state request).2
        served := s.served ++ [(request, (service.serve s.state request).1)]
        replies := if s.listening then s.replies ++ (service.respond s.state request).toList else s.replies } := by
  rw [if_pos complete.listening]
  exact { complete with
    coming := by
      intro c request' found member
      obtain queued | ⟨outcome, replied⟩ | unanswered := complete.coming c request' found member
      · rw [first] at queued
        obtain rfl | queued := List.mem_cons.mp queued
        · right
          cases answered : service.respond s.state request' with
          | none => exact .inr ⟨(service.serve s.state request').1, by simp, answered⟩
          | some read =>
              obtain ⟨reply, served, same⟩ := Option.bind_eq_some_iff.mp answered
              refine .inl ⟨read.2, List.mem_append_right _ ?_⟩
              rw [← service.answers s.state request' reply read.1 read.2 served same]
              exact List.mem_singleton_self _
        · exact .inl queued
      · exact .inr (.inl ⟨outcome, List.mem_append_left _ replied⟩)
      · obtain ⟨reply, served, silent⟩ := unanswered
        exact .inr (.inr ⟨reply, List.mem_append_left _ served, silent⟩) }

theorem finish {c : Nat} {pending : ι → Option Nat}
    (kept : ∀ id c', c' ≠ c → s.pending id = some c' → pending id = some c')
    (fewer : ∀ id c', pending id = some c' → s.pending id = some c') :
    Complete service { s with stage := Function.update s.stage c .ended, pending := pending } :=
  { complete with
    sent := by
      intro c' request made waiting
      by_cases same : c' = c
      · subst same
        simp at waiting
      · simp only [Function.update_of_ne same] at waiting
        exact complete.sent c' request made waiting
    awaited := by
      intro c' request made underway
      by_cases same : c' = c
      · subst same
        simp at underway
      · simp only [Function.update_of_ne same] at underway
        exact (complete.awaited c' request made underway).imp_right (kept _ c' same)
    coming := fun c' request found member => complete.coming c' request (fewer _ c' found) member }

/-- Once nothing is under way, every call that waits has been handed its reply, if the service replies. -/
theorem answered (idle : s.queue = []) (silent : s.replies = []) {c : Nat} {request : ρ}
    (made : s.requests c = some request) (waiting : s.stage c = .waiting)
    (replies : ∀ reply, (request, reply) ∈ s.served → (reply.bind service.response).isSome) :
    (s.inbox c).isSome := by
  refine (complete.awaited c request made (.inr waiting)).resolve_right fun found => ?_
  have sent := complete.sent c request made waiting
  obtain queued | ⟨outcome, coming⟩ | unanswered := complete.coming c request found sent
  · rw [idle] at queued
    cases queued
  · rw [silent] at coming
    cases coming
  · obtain ⟨reply, served, unanswered⟩ := unanswered
    simpa [unanswered] using replies reply served

variable [DecidableEq ι]

theorem settle {reply : ι × ω} {replies : List (ι × ω)} (first : s.replies = reply :: replies) :
    Complete service
      { s with
        replies := replies
        pending := Function.update s.pending reply.1 none
        inbox := match s.pending reply.1 with
          | some c => Function.update s.inbox c (some reply.2)
          | none => s.inbox } :=
  { complete with
    awaited := by
      intro c request made underway
      have kept := complete.awaited c request made underway
      by_cases same : service.requestId request = reply.1
      · left
        rw [same] at kept
        cases found : s.pending reply.1 with
        | none => exact kept.resolve_right (by simp [found])
        | some c' =>
            by_cases here : c = c'
            · simp [here]
            · simp only [Function.update_of_ne here]
              exact kept.resolve_right (by simp [found, Ne.symm here])
      · simp only [Function.update_of_ne same]
        refine kept.imp_left fun handed => ?_
        cases s.pending reply.1 with
        | none => exact handed
        | some c' =>
            by_cases here : c = c'
            · simp [here]
            · simpa only [Function.update_of_ne here] using handed
    coming := by
      intro c request found member
      have other : service.requestId request ≠ reply.1 := by
        intro same
        simp [same] at found
      simp only [Function.update_of_ne other] at found
      refine (complete.coming c request found member).imp_right (Or.imp_left ?_)
      rintro ⟨outcome, replied⟩
      rw [first] at replied
      obtain rfl | replied := List.mem_cons.mp replied
      · exact absurd rfl other
      · exact ⟨outcome, replied⟩ }

variable (inv : s.Inv service start)
include inv

theorem register {c : Nat} {request : ρ} (idle : s.stage c = .idle) (fresh : service.requestId request ∉ s.issued) :
    Complete service
      { s with
        requests := Function.update s.requests c (some request)
        stage := Function.update s.stage c .registered
        pending := Function.update s.pending (service.requestId request) (some c)
        issued := service.requestId request :: s.issued } :=
  { complete with
    sent := by
      intro c' request' made waiting
      by_cases same : c' = c
      · subst same
        simp at waiting
      · simp only [Function.update_of_ne same] at made waiting
        exact complete.sent c' request' made waiting
    awaited := by
      intro c' request' made underway
      by_cases same : c' = c
      · subst same
        obtain rfl : request = request' := by simpa using made
        exact .inr (Function.update_self ..)
      · simp only [Function.update_of_ne same] at made underway
        have other : service.requestId request' ≠ service.requestId request :=
          fun here => fresh (here ▸ inv.issued c' request' made)
        simpa only [Function.update_of_ne other] using complete.awaited c' request' made underway
    coming := by
      intro c' request' found member
      obtain ⟨c'', made, -⟩ := inv.origin request' member
      have other : service.requestId request' ≠ service.requestId request :=
        fun here => fresh (here ▸ inv.issued c'' request' made)
      simp only [Function.update_of_ne other] at found
      exact complete.coming c' request' found member }

theorem step (stepped : s.Step service true t) : t.Complete service := by
  cases stepped with
  | register c request idle fresh => exact complete.register inv idle fresh
  | send c request registered made => exact complete.send registered made
  | serve request queue first serving => exact complete.serve first
  | settle reply replies first => exact complete.settle first
  | finish c pending kept fewer => exact complete.finish kept fewer

end Complete

end Exchange

end Ocpp.Library
