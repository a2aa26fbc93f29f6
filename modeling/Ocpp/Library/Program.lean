import Mathlib.Logic.Function.Basic
import Ocpp.Library.Transition

/-!
# Asynchronous programs

A program performs operations on a shared state one at a time and returns a value or fails. An
operation is atomic; what the environment decides about it is its choice. A program runs alone, to its
end, or in a pool of tasks whose operations interleave.
-/

namespace Ocpp.Library

inductive Program {Op : Type} (Result : Op → Type) (ε α : Type) : Type
  | ret (value : α)
  | fail (error : ε)
  | perform (op : Op) (next : Result op → Program Result ε α)

namespace Program

variable {Op : Type} {Result : Op → Type} {ε ε' α β : Type}

def bind : Program Result ε α → (α → Program Result ε β) → Program Result ε β
  | ret value, f => f value
  | fail error, _ => fail error
  | perform op next, f => perform op fun result => (next result).bind f

instance : Monad (Program Result ε) where
  pure := ret
  bind := bind

/-- The program with its failure as a value. -/
def attempt : Program Result ε α → Program Result ε' (Except ε α)
  | ret value => ret (.ok value)
  | fail error => ret (.error error)
  | perform op next => perform op fun result => (next result).attempt

def ofExcept : Except ε α → Program Result ε α
  | .ok value => ret value
  | .error error => fail error

@[simp] theorem pure_eq (value : α) : (pure value : Program Result ε α) = ret value := rfl

@[simp] theorem ret_bind (value : α) (f : α → Program Result ε β) : (ret value >>= f) = f value := rfl

@[simp] theorem fail_bind (error : ε) (f : α → Program Result ε β) :
    ((fail error : Program Result ε α) >>= f) = fail error := rfl

@[simp] theorem perform_bind (op : Op) (next : Result op → Program Result ε α)
    (f : α → Program Result ε β) :
    (perform op next >>= f) = perform op fun result => next result >>= f := rfl

theorem bind_bind {γ : Type} (p : Program Result ε α) (f : α → Program Result ε β)
    (g : β → Program Result ε γ) : (p >>= f) >>= g = p >>= fun value => f value >>= g := by
  induction p with
  | ret value => rfl
  | fail error => rfl
  | perform op next ih => exact congrArg (perform op) (funext ih)

theorem bind_ret (p : Program Result ε α) : (p >>= ret) = p := by
  induction p with
  | ret value => rfl
  | fail error => rfl
  | perform op next ih => exact congrArg (perform op) (funext ih)

/-! ## Running alone -/

section Alone

variable {σ χ : Type} (exec : σ → (op : Op) → χ → Option (Result op × σ))

/-- The program run to its end with one choice for each operation. -/
def eval : List χ → σ → Program Result ε α → Option (Except ε α × σ)
  | [], s, ret value => some (.ok value, s)
  | [], s, fail error => some (.error error, s)
  | choice :: choices, s, perform op next =>
      (exec s op choice).bind fun (result, s) => eval choices s (next result)
  | _, _, _ => none

@[simp] theorem eval_ret (value : α) (s : σ) :
    (ret value : Program Result ε α).eval exec [] s = some (.ok value, s) := rfl

@[simp] theorem eval_fail (error : ε) (s : σ) :
    (fail error : Program Result ε α).eval exec [] s = some (.error error, s) := rfl

@[simp] theorem eval_perform (choice : χ) (choices : List χ) (s : σ) (op : Op)
    (next : Result op → Program Result ε α) :
    (perform op next).eval exec (choice :: choices) s =
      (exec s op choice).bind fun (result, s) => (next result).eval exec choices s := rfl

/-- Every way to run the program from the state ends in `post`. -/
def wp (post : Except ε α → σ → Prop) : Program Result ε α → σ → Prop
  | ret value, s => post (.ok value) s
  | fail error, s => post (.error error) s
  | perform op next, s => ∀ choice result t, exec s op choice = some (result, t) →
      (next result).wp post t

variable {exec}

@[simp] theorem wp_ret {post : Except ε α → σ → Prop} {value : α} {s : σ} :
    (ret value : Program Result ε α).wp exec post s ↔ post (.ok value) s := Iff.rfl

@[simp] theorem wp_fail {post : Except ε α → σ → Prop} {error : ε} {s : σ} :
    (fail error : Program Result ε α).wp exec post s ↔ post (.error error) s := Iff.rfl

theorem wp_bind {post : Except ε β → σ → Prop} {p : Program Result ε α}
    {f : α → Program Result ε β} {s : σ} :
    (p >>= f).wp exec post s ↔
      p.wp exec (fun outcome t => outcome.casesOn (fun e => post (.error e) t)
        fun value => (f value).wp exec post t) s := by
  induction p generalizing s with
  | ret value => rfl
  | fail error => rfl
  | perform op next ih =>
      simp only [perform_bind, wp]
      exact forall_congr' fun choice => forall_congr' fun result => forall_congr' fun t =>
        imp_congr_right fun _ => ih result

/-- What is known of the first part of a program is known where the second starts. -/
theorem wp_seq {p : Program Result ε β} {f : β → Program Result ε α} {mid : Except ε β → σ → Prop}
    {post : Except ε α → σ → Prop} {s : σ} (first : p.wp exec mid s)
    (fails : ∀ error t, mid (.error error) t → post (.error error) t)
    (rest : ∀ value t, mid (.ok value) t → (f value).wp exec post t) : (p >>= f).wp exec post s := by
  induction p generalizing s with
  | ret value => exact rest value s first
  | fail error => exact fails error s first
  | perform op next ih => exact fun choice result t performed => ih result (first choice result t performed)

theorem wp_attempt {post : Except ε' (Except ε α) → σ → Prop} {p : Program Result ε α} {s : σ} :
    (p.attempt : Program Result ε' (Except ε α)).wp exec post s ↔
      p.wp exec (fun outcome t => post (.ok outcome) t) s := by
  induction p generalizing s with
  | ret value => rfl
  | fail error => rfl
  | perform op next ih =>
      simp only [attempt, wp]
      exact forall_congr' fun choice => forall_congr' fun result => forall_congr' fun t =>
        imp_congr_right fun _ => ih result

theorem wp_mono {post post' : Except ε α → σ → Prop} {p : Program Result ε α} {s : σ}
    (weaker : ∀ outcome t, post outcome t → post' outcome t) (holds : p.wp exec post s) :
    p.wp exec post' s := by
  induction p generalizing s with
  | ret value => exact weaker _ _ holds
  | fail error => exact weaker _ _ holds
  | perform op next ih =>
      intro choice result t performed
      exact ih result (holds choice result t performed)

theorem wp_forall {ι : Sort*} {post : ι → Except ε α → σ → Prop} {p : Program Result ε α} {s : σ}
    (each : ∀ i, p.wp exec (post i) s) : p.wp exec (fun outcome t => ∀ i, post i outcome t) s := by
  induction p generalizing s with
  | ret value => exact each
  | fail error => exact each
  | perform op next ih =>
      intro choice result t performed
      exact ih result fun i => each i choice result t performed

theorem wp_and {post post' : Except ε α → σ → Prop} {p : Program Result ε α} {s : σ} (left : p.wp exec post s)
    (right : p.wp exec post' s) : p.wp exec (fun outcome t => post outcome t ∧ post' outcome t) s := by
  induction p generalizing s with
  | ret value => exact ⟨left, right⟩
  | fail error => exact ⟨left, right⟩
  | perform op next ih =>
      intro choice result t performed
      exact ih result (left choice result t performed) (right choice result t performed)

/-- A loop whose body does not fail, with what holds while some items are left. -/
theorem wp_forM_rest (Inv : List β → σ → Prop) {body : β → Program Result ε PUnit}
    (each : ∀ item items s, Inv (item :: items) s →
      (body item).wp exec (fun outcome t => outcome = .ok ⟨⟩ ∧ Inv items t) s)
    (items : List β) {s : σ} (start : Inv items s) :
    (items.forM body).wp exec (fun outcome t => outcome = .ok ⟨⟩ ∧ Inv [] t) s := by
  induction items generalizing s with
  | nil => exact ⟨rfl, start⟩
  | cons item items ih =>
      change (body item >>= fun _ => items.forM body).wp exec _ s
      apply wp_seq (each item items s start)
      · rintro error t ⟨⟨⟩, -⟩
      · rintro value t ⟨-, inv⟩
        exact ih inv

theorem wp_forM {Inv : σ → Prop} {body : β → Program Result ε PUnit}
    (items : List β) (each : ∀ item ∈ items, ∀ s, Inv s →
      (body item).wp exec (fun outcome t => outcome = .ok ⟨⟩ ∧ Inv t) s) {s : σ} (start : Inv s) :
    (items.forM body).wp exec (fun outcome t => outcome = .ok ⟨⟩ ∧ Inv t) s := by
  have kept : ∀ item rest s, (∀ later ∈ item :: rest, later ∈ items) ∧ Inv s →
      (body item).wp exec (fun outcome t => outcome = .ok ⟨⟩ ∧ (∀ later ∈ rest, later ∈ items) ∧ Inv t) s := by
    rintro item rest s ⟨among, inv⟩
    refine wp_mono (fun outcome t ended => ?_) (each item (among item List.mem_cons_self) s inv)
    exact ⟨ended.1, fun later member => among later (List.mem_cons_of_mem item member), ended.2⟩
  have looped := wp_forM_rest (fun rest s => (∀ later ∈ rest, later ∈ items) ∧ Inv s) kept items
    ⟨fun later member => member, start⟩
  exact wp_mono (fun outcome t ended => ⟨ended.1, ended.2.2⟩) looped

theorem post_of_eval {post : Except ε α → σ → Prop} {p : Program Result ε α} {s t : σ}
    {choices : List χ} {outcome : Except ε α} (holds : p.wp exec post s)
    (ran : p.eval exec choices s = some (outcome, t)) : post outcome t := by
  induction p generalizing s choices with
  | ret value =>
      cases choices with
      | nil => cases ran; exact holds
      | cons choice choices => cases ran
  | fail error =>
      cases choices with
      | nil => cases ran; exact holds
      | cons choice choices => cases ran
  | perform op next ih =>
      cases choices with
      | nil => cases ran
      | cons choice choices =>
          obtain ⟨performed, found, rest⟩ := Option.bind_eq_some_iff.mp ran
          exact ih performed.1 (holds choice performed.1 performed.2 found) rest

/-- The operations under some of the choices of the environment. -/
def restrict (allowed : χ → Bool) (exec : σ → (op : Op) → χ → Option (Result op × σ)) (s : σ) (op : Op)
    (choice : χ) : Option (Result op × σ) :=
  if allowed choice then exec s op choice else none

theorem eval_restrict {allowed : χ → Bool} {p : Program Result ε α} {s : σ} {choices : List χ}
    (among : ∀ choice ∈ choices, allowed choice) :
    p.eval (restrict allowed exec) choices s = p.eval exec choices s := by
  induction p generalizing s choices with
  | ret value | fail error =>
      cases choices with
      | nil => rfl
      | cons choice choices => rfl
  | perform op next ih =>
      cases choices with
      | nil => rfl
      | cons choice choices =>
          have here : restrict allowed exec s op choice = exec s op choice :=
            if_pos (among choice List.mem_cons_self)
          rw [eval_perform, eval_perform, here]
          have later := fun result t =>
            ih result (s := t) fun later member => among later (List.mem_cons_of_mem choice member)
          exact congrArg _ (funext fun performed => later performed.1 performed.2)

theorem eval_bind {p : Program Result ε α} {f : α → Program Result ε β} {s t : σ} {choices : List χ}
    {outcome : Except ε β} (ran : (p >>= f).eval exec choices s = some (outcome, t)) :
    (∃ error, p.eval exec choices s = some (.error error, t) ∧ outcome = .error error) ∨
      ∃ first rest value u, choices = first ++ rest ∧ p.eval exec first s = some (.ok value, u) ∧
        (f value).eval exec rest u = some (outcome, t) := by
  induction p generalizing s choices with
  | ret value => exact .inr ⟨[], choices, value, s, rfl, rfl, ran⟩
  | fail error =>
      cases choices with
      | nil =>
          cases ran
          exact .inl ⟨error, rfl, rfl⟩
      | cons choice choices => cases ran
  | perform op next ih =>
      cases choices with
      | nil => cases ran
      | cons choice choices =>
          obtain ⟨performed, found, rest⟩ := Option.bind_eq_some_iff.mp ran
          obtain ⟨error, failed, ended⟩ | ⟨first, second, value, u, rfl, ended, later⟩ := ih performed.1 rest
          · exact .inl ⟨error, Option.bind_eq_some_iff.mpr ⟨performed, found, failed⟩, ended⟩
          · refine .inr ⟨choice :: first, second, value, u, rfl, ?_, later⟩
            exact Option.bind_eq_some_iff.mpr ⟨performed, found, ended⟩

theorem eval_bind_append {p : Program Result ε α} {f : α → Program Result ε β} {s u : σ}
    {first : List χ} {value : α} (ran : p.eval exec first s = some (.ok value, u)) (rest : List χ) :
    (p >>= f).eval exec (first ++ rest) s = (f value).eval exec rest u := by
  induction p generalizing s first with
  | ret value =>
      cases first with
      | nil => cases ran; rfl
      | cons choice choices => cases ran
  | fail error =>
      cases first with
      | nil => cases ran
      | cons choice choices => cases ran
  | perform op next ih =>
      cases first with
      | nil => cases ran
      | cons choice choices =>
          obtain ⟨performed, found, later⟩ := Option.bind_eq_some_iff.mp ran
          rw [perform_bind, List.cons_append, eval_perform, found, Option.bind_some]
          exact ih performed.1 later

theorem eval_attempt_drop {p : Program Result ε α} {s : σ} {choices : List χ} :
    (p.attempt >>= fun _ => (ret () : Program Result ε' Unit)).eval exec choices s =
      (p.eval exec choices s).map fun (_, t) => (.ok (), t) := by
  induction p generalizing s choices with
  | ret value | fail error =>
      cases choices with
      | nil => rfl
      | cons choice choices => rfl
  | perform op next ih =>
      cases choices with
      | nil => rfl
      | cons choice choices =>
          rw [attempt, perform_bind, eval_perform, eval_perform, Option.map_bind]
          exact congrArg _ (funext fun performed => ih performed.1)

/-! ### Along a run -/

/-- The states a run goes through, up to its end or to where it cannot go on. -/
def states (exec : σ → (op : Op) → χ → Option (Result op × σ)) : List χ → σ → Program Result ε α → List σ
  | choice :: choices, s, perform op next =>
      s :: (exec s op choice).elim [] fun (result, t) => states exec choices t (next result)
  | _, s, _ => [s]

theorem mem_states_of_eval {p : Program Result ε α} {s t : σ} {choices : List χ} {outcome : Except ε α}
    (ran : p.eval exec choices s = some (outcome, t)) : t ∈ p.states exec choices s := by
  induction p generalizing s choices with
  | ret value | fail error =>
      cases choices with
      | nil => cases ran; exact List.mem_singleton.mpr rfl
      | cons choice choices => cases ran
  | perform op next ih =>
      cases choices with
      | nil => cases ran
      | cons choice choices =>
          obtain ⟨performed, found, rest⟩ := Option.bind_eq_some_iff.mp ran
          apply List.mem_cons_of_mem
          rw [found]
          exact ih performed.1 rest

theorem mem_states_bind {p : Program Result ε α} {f : α → Program Result ε β} {s u : σ} {choices : List χ}
    (visited : u ∈ (p >>= f).states exec choices s) :
    u ∈ p.states exec choices s ∨ ∃ first rest value t, choices = first ++ rest ∧
      p.eval exec first s = some (.ok value, t) ∧ u ∈ (f value).states exec rest t := by
  induction p generalizing s choices with
  | ret value => exact .inr ⟨[], choices, value, s, rfl, rfl, visited⟩
  | fail error =>
      refine .inl ?_
      cases choices with
      | nil => exact visited
      | cons choice choices => exact visited
  | perform op next ih =>
      cases choices with
      | nil => exact .inl visited
      | cons choice choices =>
          obtain rfl | later := List.mem_cons.mp visited
          · exact .inl List.mem_cons_self
          cases found : exec s op choice with
          | none => simp [found] at later
          | some performed =>
              rw [found] at later
              obtain inside | ⟨first, rest, value, t, rfl, ended, after⟩ := ih performed.1 later
              · refine .inl (List.mem_cons_of_mem s ?_)
                rw [found]
                exact inside
              · refine .inr ⟨choice :: first, rest, value, t, rfl, ?_, after⟩
                exact Option.bind_eq_some_iff.mpr ⟨performed, found, ended⟩

theorem states_attempt_drop {p : Program Result ε α} {s : σ} {choices : List χ} :
    (p.attempt >>= fun _ => (ret () : Program Result ε' Unit)).states exec choices s =
      p.states exec choices s := by
  induction p generalizing s choices with
  | ret value | fail error =>
      cases choices with
      | nil => rfl
      | cons choice choices => rfl
  | perform op next ih =>
      cases choices with
      | nil => rfl
      | cons choice choices =>
          rw [attempt, perform_bind, states, states]
          cases exec s op choice with
          | none => rfl
          | some performed => exact congrArg _ (ih performed.1)

/-- Every operation of every run is performed where `pre` holds, and every run ends in `post`. -/
def Guarded (exec : σ → (op : Op) → χ → Option (Result op × σ)) (pre : σ → Op → Prop)
    (post : Except ε α → σ → Prop) : Program Result ε α → σ → Prop
  | ret value, s => post (.ok value) s
  | fail error, s => post (.error error) s
  | perform op next, s => pre s op ∧ ∀ choice result t, exec s op choice = some (result, t) →
      (next result).Guarded exec pre post t

section Guarded

variable {pre : σ → Op → Prop} {p : Program Result ε α} {s : σ}

theorem Guarded.mono {post post' : Except ε α → σ → Prop}
    (weaker : ∀ outcome t, post outcome t → post' outcome t) (guarded : p.Guarded exec pre post s) :
    p.Guarded exec pre post' s := by
  induction p generalizing s with
  | ret value => exact weaker _ _ guarded
  | fail error => exact weaker _ _ guarded
  | perform op next ih =>
      exact ⟨guarded.1, fun choice result t performed => ih result (guarded.2 choice result t performed)⟩

theorem Guarded.bind {mid : Except ε α → σ → Prop} {post : Except ε β → σ → Prop}
    {f : α → Program Result ε β} (first : p.Guarded exec pre mid s)
    (fails : ∀ error t, mid (.error error) t → post (.error error) t)
    (rest : ∀ value t, mid (.ok value) t → (f value).Guarded exec pre post t) :
    (p >>= f).Guarded exec pre post s := by
  induction p generalizing s with
  | ret value => exact rest value s first
  | fail error => exact fails error s first
  | perform op next ih =>
      exact ⟨first.1, fun choice result t performed => ih result (first.2 choice result t performed)⟩

theorem Guarded.attempt {post : Except ε α → σ → Prop} (guarded : p.Guarded exec pre post s) :
    (p.attempt : Program Result ε' (Except ε α)).Guarded exec pre
      (fun outcome t => ∃ value, outcome = .ok value ∧ post value t) s := by
  induction p generalizing s with
  | ret value => exact ⟨_, rfl, guarded⟩
  | fail error => exact ⟨_, rfl, guarded⟩
  | perform op next ih =>
      exact ⟨guarded.1, fun choice result t performed => ih result (guarded.2 choice result t performed)⟩

theorem Guarded.forM {body : β → Program Result ε PUnit} (items : List β)
    (each : ∀ item s, (body item).Guarded exec pre (fun outcome _ => outcome = .ok ⟨⟩) s) (s : σ) :
    (items.forM body).Guarded exec pre (fun outcome _ => outcome = .ok ⟨⟩) s := by
  induction items generalizing s with
  | nil => rfl
  | cons item items ih =>
      apply (each item s).bind
      · rintro error t ⟨⟩
      · exact fun _ t _ => ih t

/-- What every guarded operation keeps holds in every state of a guarded run. -/
theorem Guarded.states {post : Except ε α → σ → Prop} {Inv : σ → Prop}
    (kept : ∀ s op choice result t, pre s op → Inv s → exec s op choice = some (result, t) → Inv t)
    (guarded : p.Guarded exec pre post s) (start : Inv s) {choices : List χ} {u : σ}
    (visited : u ∈ p.states exec choices s) : Inv u := by
  induction p generalizing s choices with
  | ret value | fail error =>
      cases choices with
      | nil => exact List.mem_singleton.mp visited ▸ start
      | cons choice choices => exact List.mem_singleton.mp visited ▸ start
  | perform op next ih =>
      cases choices with
      | nil => exact List.mem_singleton.mp visited ▸ start
      | cons choice choices =>
          obtain rfl | later := List.mem_cons.mp visited
          · exact start
          cases found : exec s op choice with
          | none => simp [found] at later
          | some performed =>
              rw [found] at later
              apply ih performed.1 (guarded.2 choice _ _ found) _ later
              exact kept s op choice _ _ guarded.1 start found

end Guarded

end Alone

end Program

end Ocpp.Library
