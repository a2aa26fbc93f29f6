import Mathlib.Data.List.Induction

/-!
# Runs of a transition system

A step function that may refuse an action, its runs over a list of actions, and the rules that carry
a property of single steps to whole runs.
-/

namespace Ocpp.Library

variable {σ α : Type*}

def run (step : σ → α → Option σ) : σ → List α → Option σ
  | s, [] => some s
  | s, a :: as => (step s a).bind (run step · as)

/-- Every action of the run meets `condition` in the state it is taken from. -/
def Along (step : σ → α → Option σ) (condition : σ → α → Prop) : σ → List α → Prop
  | _, [] => True
  | s, a :: as => condition s a ∧ ∀ t ∈ step s a, Along step condition t as

/-- What is observed of the steps of a run, in their order. -/
def collect {β : Type*} (step : σ → α → Option σ) (observe : σ → α → Option β) : σ → List α → List β
  | _, [] => []
  | s, a :: as => (observe s a).toList ++ (step s a).elim [] (collect step observe · as)

variable {step : σ → α → Option σ}

theorem collect_cons {β : Type*} {observe : σ → α → Option β} {s t : σ} {a : α} (stepped : step s a = some t)
    (as : List α) : collect step observe s (a :: as) = (observe s a).toList ++ collect step observe t as := by
  rw [collect, stepped, Option.elim_some]

theorem run_cons {s t : σ} {a : α} (stepped : step s a = some t) (as : List α) :
    run step s (a :: as) = run step t as := by
  rw [run, stepped, Option.bind_some]

theorem run_append (s : σ) (before after : List α) :
    run step s (before ++ after) = (run step s before).bind (run step · after) := by
  induction before generalizing s with
  | nil => rfl
  | cons a as ih =>
      rw [List.cons_append, run, run, Option.bind_assoc]
      exact congrArg _ (funext ih)

theorem Along.append {condition : σ → α → Prop} {s : σ} {before after : List α} :
    Along step condition s (before ++ after) ↔
      Along step condition s before ∧ ∀ t, run step s before = some t → Along step condition t after := by
  induction before generalizing s with
  | nil => simp [Along, run]
  | cons a as ih =>
      simp only [List.cons_append, Along, ih, run, Option.bind_eq_some_iff, Option.mem_def]
      constructor
      · rintro ⟨met, later⟩
        refine ⟨⟨met, fun t stepped => (later t stepped).1⟩, ?_⟩
        rintro u ⟨t, stepped, ran⟩
        exact (later t stepped).2 u ran
      · rintro ⟨⟨met, early⟩, later⟩
        exact ⟨met, fun t stepped => ⟨early t stepped, fun u ran => later u ⟨t, stepped, ran⟩⟩⟩

theorem Along.cons {condition : σ → α → Prop} {s t : σ} {a : α} {as : List α} (met : condition s a)
    (stepped : step s a = some t) (rest : Along step condition t as) :
    Along step condition s (a :: as) := by
  refine ⟨met, ?_⟩
  rw [stepped]
  rintro _ ⟨⟩
  exact rest

/-- A check of every action of a run, in the state it is taken from. -/
def checkAlong (step : σ → α → Option σ) (check : σ → α → Bool) : σ → List α → Bool
  | _, [] => true
  | s, a :: as => check s a && (step s a).all (checkAlong step check · as)

theorem Along.of_check (Inv : σ → Prop) (check : σ → α → Bool) {condition : σ → α → Prop}
    (sound : ∀ s a, Inv s → check s a → condition s a)
    (kept : ∀ s a t, Inv s → check s a → step s a = some t → Inv t) {s : σ} {actions : List α}
    (start : Inv s) (checked : checkAlong step check s actions) : Along step condition s actions := by
  induction actions generalizing s with
  | nil => trivial
  | cons a as ih =>
      obtain ⟨here, later⟩ := (Bool.and_eq_true _ _).mp checked
      refine ⟨sound s a start here, fun t stepped => ?_⟩
      rw [Option.mem_def.mp stepped] at later
      exact ih (kept s a t start here stepped) later

theorem run_total {Inv : σ → Prop} (kept : ∀ s a, Inv s → ∃ t, step s a = some t ∧ Inv t) {s : σ}
    (start : Inv s) (actions : List α) : ∃ t, run step s actions = some t ∧ Inv t := by
  induction actions generalizing s with
  | nil => exact ⟨s, rfl, start⟩
  | cons a as ih =>
      obtain ⟨t, stepped, inv⟩ := kept s a start
      simpa [run, stepped] using ih inv

/-- In every action of a run the condition holds that each state of the run allows. -/
theorem Along.of_invariant {Inv : σ → Prop} {condition condition' : σ → α → Prop}
    (kept : ∀ s a t, Inv s → condition s a → step s a = some t → Inv t)
    (met : ∀ s a, Inv s → condition s a → condition' s a) {s : σ} {actions : List α} (start : Inv s)
    (along : Along step condition s actions) : Along step condition' s actions := by
  induction actions generalizing s with
  | nil => trivial
  | cons a as ih =>
      refine ⟨met s a start along.1, fun t stepped => ?_⟩
      exact ih (kept s a t start along.1 stepped) (along.2 t stepped)

theorem Along.after {condition : σ → α → Prop} {s t : σ} {before : List α} {a : α} {as : List α}
    (along : Along step condition s (before ++ a :: as)) (ran : run step s before = some t) :
    condition t a := by
  induction before generalizing s with
  | nil => exact Option.some.inj ran ▸ along.1
  | cons b bs ih =>
      obtain ⟨u, stepped, rest⟩ := Option.bind_eq_some_iff.mp ran
      exact ih (along.2 u stepped) rest

/-- A property that every step meeting `condition` keeps holds after every run of such steps. -/
theorem run_invariant {Inv : σ → Prop} {condition : σ → α → Prop}
    (kept : ∀ s a t, Inv s → condition s a → step s a = some t → Inv t) {s t : σ} {actions : List α}
    (start : Inv s) (along : Along step condition s actions) (ran : run step s actions = some t) :
    Inv t := by
  induction actions generalizing s with
  | nil => exact Option.some.inj ran ▸ start
  | cons a as ih =>
      obtain ⟨u, stepped, rest⟩ := Option.bind_eq_some_iff.mp ran
      exact ih (kept s a u start along.1 stepped) (along.2 u stepped) rest

theorem run_collect {β : Type*} {observe : σ → α → Option β} (log : σ → List β)
    (logged : ∀ s a t, step s a = some t → log t = log s ++ (observe s a).toList) {s t : σ} {actions : List α}
    (ran : run step s actions = some t) : log t = log s ++ collect step observe s actions := by
  induction actions generalizing s with
  | nil =>
      obtain rfl := Option.some.inj ran
      exact (List.append_nil _).symm
  | cons a as ih =>
      obtain ⟨u, stepped, rest⟩ := Option.bind_eq_some_iff.mp ran
      rw [ih rest, logged s a u stepped, collect_cons stepped, List.append_assoc]

/-- A property of a state and of the run that has led to it. -/
theorem run_history {start : σ} {Inv : List α → σ → Prop} (initial : Inv [] start)
    (kept : ∀ before s a t, run step start before = some s → Inv before s → step s a = some t → Inv (before ++ [a]) t)
    {actions : List α} {s : σ} (ran : run step start actions = some s) : Inv actions s := by
  induction actions using List.reverseRecOn generalizing s with
  | nil => exact Option.some.inj ran ▸ initial
  | append_singleton before a ih =>
      rw [run_append] at ran
      obtain ⟨t, ran, last⟩ := Option.bind_eq_some_iff.mp ran
      obtain ⟨u, stepped, ended⟩ := Option.bind_eq_some_iff.mp last
      exact Option.some.inj ended ▸ kept before t a u ran (ih ran) stepped

/-- The run has taken an action in a state such that the event holds of them. -/
def Occurred (step : σ → α → Option σ) (start : σ) (event : σ → α → Prop) (actions : List α) : Prop :=
  ∃ before a after s, actions = before ++ a :: after ∧ run step start before = some s ∧ event s a

theorem Occurred.snoc {start : σ} {event : σ → α → Prop} {actions : List α}
    (occurred : Occurred step start event actions) (a : α) : Occurred step start event (actions ++ [a]) := by
  obtain ⟨before, b, after, s, rfl, ran, here⟩ := occurred
  exact ⟨before, b, after ++ [a], s, by rw [List.append_assoc, List.cons_append], ran, here⟩

theorem occurred_last {start s : σ} {event : σ → α → Prop} {before : List α} {a : α}
    (ran : run step start before = some s) (here : event s a) : Occurred step start event (before ++ [a]) :=
  ⟨before, a, [], s, rfl, ran, here⟩

/-- Steps that each spend a unit of a potential are no more than the start had and the run was credited with. -/
theorem run_countP {Inv : σ → Prop} {condition : σ → α → Prop} (spends : α → Bool) (potential credit : σ → ℕ)
    (kept : ∀ s a t, Inv s → condition s a → step s a = some t → Inv t)
    (spent : ∀ s a t, Inv s → condition s a → step s a = some t →
      potential t + (if spends a then 1 else 0) + credit s ≤ potential s + credit t) {s t : σ} {actions : List α}
    (start : Inv s) (along : Along step condition s actions) (ran : run step s actions = some t) :
    potential t + actions.countP spends + credit s ≤ potential s + credit t := by
  induction actions generalizing s with
  | nil =>
      obtain rfl := Option.some.inj ran
      simp
  | cons a as ih =>
      obtain ⟨u, stepped, rest⟩ := Option.bind_eq_some_iff.mp ran
      have later := ih (kept s a u start along.1 stepped) (along.2 u stepped) rest
      have here := spent s a u start along.1 stepped
      rw [List.countP_cons]
      omega

/-- Where a step keeps `Good` exactly when it meets `condition`, a run keeps it in every state exactly when all its
steps do. -/
theorem along_iff {Inv Good : σ → Prop} {condition : σ → α → Prop}
    (kept : ∀ s a t, Inv s → step s a = some t → Inv t)
    (exact_ : ∀ s a t, Inv s → Good s → step s a = some t → (Good t ↔ condition s a)) {s t : σ} {actions : List α}
    (start : Inv s) (good : Good s) (ran : run step s actions = some t) :
    (∀ before u, before <+: actions → run step s before = some u → Good u) ↔ Along step condition s actions := by
  induction actions generalizing s with
  | nil =>
      refine iff_of_true ?_ trivial
      intro before u initial reached
      rw [List.prefix_nil.mp initial] at reached
      exact Option.some.inj reached ▸ good
  | cons a as ih =>
      obtain ⟨u, stepped, rest⟩ := Option.bind_eq_some_iff.mp ran
      have here := exact_ s a u start good stepped
      constructor
      · intro always
        have good' : Good u := always [a] u (List.prefix_append [a] as) (by rw [run_cons stepped, run])
        refine .cons (here.mp good') stepped ((ih (kept s a u start stepped) good' rest).mp ?_)
        intro before v initial reached
        exact always (a :: before) v (List.cons_prefix_cons.mpr ⟨rfl, initial⟩) (by rw [run_cons stepped, reached])
      · intro along before v initial reached
        cases before with
        | nil => exact Option.some.inj reached ▸ good
        | cons b before =>
            obtain ⟨rfl, shorter⟩ := List.cons_prefix_cons.mp initial
            rw [run_cons stepped] at reached
            have good' := here.mpr along.1
            exact (ih (kept s b u start stepped) good' rest).mpr (along.2 u stepped) before v shorter reached

theorem Along.always (s : σ) (actions : List α) : Along step (fun _ _ => True) s actions := by
  induction actions generalizing s with
  | nil => trivial
  | cons a as ih => exact ⟨trivial, fun t _ => ih t⟩

end Ocpp.Library
