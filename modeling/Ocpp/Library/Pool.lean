import Ocpp.Library.Program

/-!
# Pools of tasks

What a program may and must still perform, and pools of tasks that share a state: a call starts a task,
a step performs the next operation of one task, and a task that has ended leaves the pool.
-/

namespace Ocpp.Library

namespace Program

variable {Op : Type} {Result : Op → Type} {ε ε' α β : Type}

/-- Some run performs an operation of `target` before any of `barrier`. -/
def Reaches (target barrier : Op → Prop) : Program Result ε α → Prop
  | ret _ | fail _ => False
  | perform op next => target op ∨ ¬barrier op ∧ ∃ result, (next result).Reaches target barrier

def Within (P : Op → Prop) : Program Result ε α → Prop
  | ret _ | fail _ => True
  | perform op next => P op ∧ ∀ result, (next result).Within P

/-- Every operation that can be performed after allowed results satisfies `P`. -/
def WithinFor (P : Op → Prop) (allowed : (op : Op) → Result op → Prop) : Program Result ε α → Prop
  | ret _ | fail _ => True
  | perform op next => P op ∧ ∀ result, allowed op result → (next result).WithinFor P allowed

/-- Every operation that can be performed satisfies `P` together with its result and what is left of the
program after it. -/
def Follows (P : (op : Op) → Result op → Program Result ε α → Prop) : Program Result ε α → Prop
  | ret _ | fail _ => True
  | perform op next => ∀ result, P op result (next result) ∧ (next result).Follows P

/-- Every run with allowed results performs an operation of `target` before any of `barrier`. -/
def Inevitable (target barrier : Op → Prop) (allowed : (op : Op) → Result op → Prop) :
    Program Result ε α → Prop
  | ret _ | fail _ => False
  | perform op next => target op ∨ ¬barrier op ∧
      ∀ result, allowed op result → (next result).Inevitable target barrier allowed

section Within

variable {P P' : Op → Prop} {p : Program Result ε α} {f : α → Program Result ε β}

theorem Within.bind (first : p.Within P) (rest : ∀ value, (f value).Within P) :
    (p >>= f).Within P := by
  induction p with
  | ret value => exact rest value
  | fail error => trivial
  | perform op next ih => exact ⟨first.1, fun result => ih result (first.2 result)⟩

theorem Within.attempt (within : p.Within P) :
    (p.attempt : Program Result ε' (Except ε α)).Within P := by
  induction p with
  | ret value => trivial
  | fail error => trivial
  | perform op next ih => exact ⟨within.1, fun result => ih result (within.2 result)⟩

theorem within_ofExcept (outcome : Except ε α) :
    (Program.ofExcept outcome : Program Result ε α).Within P := by
  cases outcome <;> trivial

theorem Within.forM {body : β → Program Result ε PUnit} (each : ∀ item, (body item).Within P)
    (items : List β) : (items.forM body).Within P := by
  induction items with
  | nil => trivial
  | cons item items ih => exact (each item).bind fun _ => ih

theorem Within.mono (weaker : ∀ op, P op → P' op) (within : p.Within P) : p.Within P' := by
  induction p with
  | ret value => trivial
  | fail error => trivial
  | perform op next ih => exact ⟨weaker op within.1, fun result => ih result (within.2 result)⟩

theorem Within.wp {σ χ : Type} {exec : σ → (op : Op) → χ → Option (Result op × σ)} {Inv : σ → Prop}
    (kept : ∀ s op choice result t, P op → Inv s → exec s op choice = some (result, t) → Inv t)
    (within : p.Within P) {s : σ} (start : Inv s) : p.wp exec (fun _ t => Inv t) s := by
  induction p generalizing s with
  | ret value => exact start
  | fail error => exact start
  | perform op next ih =>
      intro choice result t performed
      exact ih result (within.2 result) (kept s op choice result t within.1 start performed)

theorem Within.guarded {σ χ : Type} {exec : σ → (op : Op) → χ → Option (Result op × σ)} {Inv : σ → Prop}
    {pre : σ → Op → Prop} (met : ∀ s op, P op → Inv s → pre s op)
    (kept : ∀ s op choice result t, P op → Inv s → exec s op choice = some (result, t) → Inv t)
    (within : p.Within P) {s : σ} (start : Inv s) : p.Guarded exec pre (fun _ t => Inv t) s := by
  induction p generalizing s with
  | ret value => exact start
  | fail error => exact start
  | perform op next ih =>
      refine ⟨met s op within.1 start, fun choice result t performed => ?_⟩
      exact ih result (within.2 result) (kept s op choice result t within.1 start performed)

theorem Within.states {σ χ : Type} {exec : σ → (op : Op) → χ → Option (Result op × σ)} {Inv : σ → Prop}
    (kept : ∀ s op choice result t, P op → Inv s → exec s op choice = some (result, t) → Inv t)
    (within : p.Within P) {s u : σ} (start : Inv s) {choices : List χ}
    (visited : u ∈ p.states exec choices s) : Inv u := by
  have guarded : p.Guarded exec (fun _ op => P op) (fun _ t => Inv t) s :=
    within.guarded (fun _ _ inside _ => inside) kept start
  exact guarded.states kept start visited

theorem Within.not_reaches {target barrier : Op → Prop} (within : p.Within P)
    (other : ∀ op, P op → ¬target op) : ¬p.Reaches target barrier := by
  induction p with
  | ret value => exact id
  | fail error => exact id
  | perform op next ih =>
      rintro (here | ⟨-, result, later⟩)
      · exact other op within.1 here
      · exact ih result (within.2 result) later

end Within

section Follows

variable {P : Op → Prop} {Q : (op : Op) → Result op → Program Result ε β → Prop}
  {p : Program Result ε α} {f : α → Program Result ε β}

theorem Within.follows {q : Program Result ε β} (within : q.Within P)
    (free : ∀ op result rest, P op → rest.Within P → Q op result rest) : q.Follows Q := by
  induction q with
  | ret value => trivial
  | fail error => trivial
  | perform op next ih =>
      exact fun result => ⟨free op result _ within.1 (within.2 result), ih result (within.2 result)⟩

theorem Within.follows_bind (within : p.Within P)
    (free : ∀ op result rest, P op → Q op result rest) (rest : ∀ value, (f value).Follows Q) :
    (p >>= f).Follows Q := by
  induction p with
  | ret value => exact rest value
  | fail error => trivial
  | perform op next ih =>
      exact fun result => ⟨free op result _ within.1, ih result (within.2 result)⟩

theorem Follows.bind {Q' : (op : Op) → Result op → Program Result ε α → Prop}
    (lift : ∀ op result rest, Q' op result rest → Q op result (rest >>= f)) (first : p.Follows Q')
    (rest : ∀ value, (f value).Follows Q) : (p >>= f).Follows Q := by
  induction p with
  | ret value => exact rest value
  | fail error => trivial
  | perform op next ih =>
      exact fun result => ⟨lift op result _ (first result).1, ih result (first result).2⟩

theorem Follows.attempt {Q' : (op : Op) → Result op → Program Result ε' (Except ε β) → Prop}
    {q : Program Result ε β} (lift : ∀ op result rest, Q op result rest → Q' op result rest.attempt)
    (follows : q.Follows Q) : (q.attempt : Program Result ε' (Except ε β)).Follows Q' := by
  induction q with
  | ret value => trivial
  | fail error => trivial
  | perform op next ih =>
      exact fun result => ⟨lift op result _ (follows result).1, ih result (follows result).2⟩

end Follows

theorem Follows.forM {Q : (op : Op) → Result op → Program Result ε PUnit → Prop}
    {body : β → Program Result ε PUnit}
    (lift : ∀ op result rest later, Q op result rest →
      Q op result (rest >>= fun _ => List.forM later body))
    (each : ∀ item, (body item).Follows Q) (items : List β) : (items.forM body).Follows Q := by
  induction items with
  | nil => trivial
  | cons item items ih =>
      exact (each item).bind (fun op result rest => lift op result rest items) fun _ => ih

theorem Reaches.of_next {target barrier : Op → Prop} {op : Op}
    {next : Result op → Program Result ε α} {result : Result op} (passed : ¬barrier op)
    (later : (next result).Reaches target barrier) : (perform op next).Reaches target barrier :=
  Or.inr ⟨passed, result, later⟩

theorem not_reaches_bind {target barrier : Op → Prop} {p : Program Result ε α}
    {f : α → Program Result ε β} (first : ¬p.Reaches target barrier)
    (rest : ∀ value, ¬(f value).Reaches target barrier) : ¬(p >>= f).Reaches target barrier := by
  induction p with
  | ret value => exact rest value
  | fail error => exact id
  | perform op next ih =>
      rintro (here | ⟨passed, result, later⟩)
      · exact first (Or.inl here)
      · exact ih result (fun reaches => first (Or.inr ⟨passed, result, reaches⟩)) later

theorem not_reaches_attempt {target barrier : Op → Prop} {p : Program Result ε α}
    (first : ¬p.Reaches target barrier) :
    ¬(p.attempt : Program Result ε' (Except ε α)).Reaches target barrier := by
  induction p with
  | ret value => exact id
  | fail error => exact id
  | perform op next ih =>
      rintro (here | ⟨passed, result, later⟩)
      · exact first (Or.inl here)
      · exact ih result (fun reaches => first (Or.inr ⟨passed, result, reaches⟩)) later

theorem not_reaches_forM {target barrier : Op → Prop} {body : β → Program Result ε PUnit}
    (each : ∀ item, ¬(body item).Reaches target barrier) (items : List β) :
    ¬(items.forM body).Reaches target barrier := by
  induction items with
  | nil => exact id
  | cons item items ih => exact not_reaches_bind (each item) fun _ => ih

theorem Reaches.mono {target target' barrier : Op → Prop} {p : Program Result ε α}
    (weaker : ∀ op, target op → target' op) (reaches : p.Reaches target barrier) :
    p.Reaches target' barrier := by
  induction p with
  | ret value => exact reaches
  | fail error => exact reaches
  | perform op next ih =>
      rcases reaches with here | ⟨passed, result, later⟩
      · exact Or.inl (weaker op here)
      · exact Or.inr ⟨passed, result, ih result later⟩

section Inevitable

variable {target barrier : Op → Prop} {allowed : (op : Op) → Result op → Prop}
  {p : Program Result ε α}

theorem Inevitable.bind {f : α → Program Result ε β} (inevitable : p.Inevitable target barrier allowed) :
    (p >>= f).Inevitable target barrier allowed := by
  induction p with
  | ret value => exact inevitable.elim
  | fail error => exact inevitable.elim
  | perform op next ih =>
      rcases inevitable with here | ⟨passed, later⟩
      · exact Or.inl here
      · exact Or.inr ⟨passed, fun result ok => ih result (later result ok)⟩

theorem Inevitable.attempt (inevitable : p.Inevitable target barrier allowed) :
    (p.attempt : Program Result ε' (Except ε α)).Inevitable target barrier allowed := by
  induction p with
  | ret value => exact inevitable.elim
  | fail error => exact inevitable.elim
  | perform op next ih =>
      rcases inevitable with here | ⟨passed, later⟩
      · exact Or.inl here
      · exact Or.inr ⟨passed, fun result ok => ih result (later result ok)⟩

theorem Inevitable.reaches (possible : ∀ op, ∃ result, allowed op result)
    (inevitable : p.Inevitable target barrier allowed) : p.Reaches target barrier := by
  induction p with
  | ret value => exact inevitable
  | fail error => exact inevitable
  | perform op next ih =>
      rcases inevitable with here | ⟨passed, later⟩
      · exact Or.inl here
      · obtain ⟨result, ok⟩ := possible op
        exact Or.inr ⟨passed, result, ih result (later result ok)⟩

end Inevitable

end Program

/-! ## Pools -/

variable {Op : Type} {Result : Op → Type} {ε σ χ κ : Type}

structure Pool (Result : Op → Type) (ε σ κ : Type) where
  shared : σ
  tasks : Nat → Option (κ × Program Result ε Unit)

inductive PoolAction (κ χ : Type)
  | spawn (task : Nat) (call : κ)
  | advance (task : Nat) (choice : χ)
  | drop (task : Nat)

/-- How calls start: whether they may, what they run, and what starting them changes. -/
structure Starter (Result : Op → Type) (ε σ κ : Type) where
  start : σ → Nat → κ → Option (Program Result ε Unit × σ)
  droppable : κ → Bool

def PoolAction.task : PoolAction κ χ → Nat
  | spawn task _ | advance task _ | drop task => task

namespace Pool

def live (call : κ) : Program Result ε Unit → Option (κ × Program Result ε Unit)
  | .ret _ | .fail _ => none
  | p => some (call, p)

def step (exec : σ → (op : Op) → χ → Option (Result op × σ)) (starter : Starter Result ε σ κ)
    (pool : Pool Result ε σ κ) : PoolAction κ χ → Option (Pool Result ε σ κ)
  | .spawn task call =>
      match pool.tasks task with
      | some _ => none
      | none => (starter.start pool.shared task call).map fun (p, s) =>
          ⟨s, Function.update pool.tasks task (live call p)⟩
  | .advance task choice =>
      match pool.tasks task with
      | some (call, .perform op next) => (exec pool.shared op choice).map fun (result, s) =>
          ⟨s, Function.update pool.tasks task (live call (next result))⟩
      | _ => none
  | .drop task =>
      match pool.tasks task with
      | some (call, _) =>
          if starter.droppable call then some ⟨pool.shared, Function.update pool.tasks task none⟩
          else none
      | none => none

/-- The call a task runs and the operation it performs next. -/
def pending (pool : Pool Result ε σ κ) (task : Nat) : Option (κ × Op) :=
  match pool.tasks task with
  | some (call, .perform op _) => some (call, op)
  | _ => none

def At (P : Program Result ε Unit → Prop) (pool : Pool Result ε σ κ) (task : Nat) : Prop :=
  ∃ call p, pool.tasks task = some (call, p) ∧ P p

def Each (P : κ → Program Result ε Unit → Prop) (pool : Pool Result ε σ κ) : Prop :=
  ∀ task call p, pool.tasks task = some (call, p) → P call p

theorem live_eq_some {call call' : κ} {p p' : Program Result ε Unit}
    (running : live call p = some (call', p')) : call' = call ∧ p' = p := by
  cases p with
  | ret value => cases running
  | fail error => cases running
  | perform op next => cases running; exact ⟨rfl, rfl⟩

theorem pending_eq_some {pool : Pool Result ε σ κ} {task : Nat} {call : κ} {op : Op}
    (found : pool.pending task = some (call, op)) :
    ∃ next, pool.tasks task = some (call, .perform op next) := by
  rcases running : pool.tasks task with - | ⟨call', value | error | ⟨op', next⟩⟩
  all_goals simp only [pending, running] at found
  · cases found
  · cases found
  · cases found
  · cases found
    exact ⟨next, rfl⟩

section Step

variable {exec : σ → (op : Op) → χ → Option (Result op × σ)} {starter : Starter Result ε σ κ}
  {pool pool' : Pool Result ε σ κ}

theorem step_spawn {task : Nat} {call : κ}
    (stepped : pool.step exec starter (.spawn task call) = some pool') :
    ∃ p s, pool.tasks task = none ∧ starter.start pool.shared task call = some (p, s) ∧
      pool' = ⟨s, Function.update pool.tasks task (live call p)⟩ := by
  cases free : pool.tasks task with
  | some running => simp [step, free] at stepped
  | none =>
      simp only [step, free, Option.map_eq_some_iff] at stepped
      obtain ⟨⟨p, s⟩, started, rfl⟩ := stepped
      exact ⟨p, s, rfl, started, rfl⟩

theorem step_advance {task : Nat} {choice : χ}
    (stepped : pool.step exec starter (.advance task choice) = some pool') :
    ∃ call op next result s, pool.tasks task = some (call, .perform op next) ∧
      exec pool.shared op choice = some (result, s) ∧
      pool' = ⟨s, Function.update pool.tasks task (live call (next result))⟩ := by
  rcases running : pool.tasks task with - | ⟨call, value | error | ⟨op, next⟩⟩
  · simp [step, running] at stepped
  · simp [step, running] at stepped
  · simp [step, running] at stepped
  · simp only [step, running, Option.map_eq_some_iff] at stepped
    obtain ⟨⟨result, s⟩, performed, rfl⟩ := stepped
    exact ⟨call, op, next, result, s, rfl, performed, rfl⟩

theorem step_drop {task : Nat} (stepped : pool.step exec starter (.drop task) = some pool') :
    ∃ call p, pool.tasks task = some (call, p) ∧ starter.droppable call ∧
      pool' = ⟨pool.shared, Function.update pool.tasks task none⟩ := by
  rcases running : pool.tasks task with - | ⟨call, p⟩
  · simp [step, running] at stepped
  · simp only [step, running, Option.ite_none_right_eq_some, Option.some.injEq] at stepped
    exact ⟨call, p, rfl, stepped.1, stepped.2.symm⟩

theorem task_of_update {tasks : Nat → Option (κ × Program Result ε Unit)} {task task' : Nat}
    {call call' : κ} {p p' : Program Result ε Unit}
    (found : Function.update tasks task (live call p) task' = some (call', p')) :
    task' = task ∧ call' = call ∧ p' = p ∨ task' ≠ task ∧ tasks task' = some (call', p') := by
  by_cases same : task' = task
  · subst same
    rw [Function.update_self] at found
    exact Or.inl ⟨rfl, live_eq_some found⟩
  · rw [Function.update_of_ne same] at found
    exact Or.inr ⟨same, found⟩

theorem at_of_live {P : Program Result ε Unit → Prop} {s : σ} {task : Nat} {call : κ}
    {p : Program Result ε Unit} (unended : (∀ value, ¬P (.ret value)) ∧ ∀ error, ¬P (.fail error))
    (holds : P p) :
    At P (⟨s, Function.update pool.tasks task (live call p)⟩ : Pool Result ε σ κ) task := by
  refine ⟨call, p, (Function.update_self ..).trans ?_, holds⟩
  cases p with
  | ret value => exact absurd holds (unended.1 value)
  | fail error => exact absurd holds (unended.2 error)
  | perform op next => rfl

theorem at_other {P : Program Result ε Unit → Prop} {task task' : Nat} {s : σ}
    {running : Option (κ × Program Result ε Unit)} (other : task' ≠ task) (before : pool.At P task') :
    At P (⟨s, Function.update pool.tasks task running⟩ : Pool Result ε σ κ) task' := by
  obtain ⟨call, p, here, holds⟩ := before
  exact ⟨call, p, (Function.update_of_ne other ..).trans here, holds⟩

theorem task_of_drop {tasks : Nat → Option (κ × Program Result ε Unit)} {task task' : Nat}
    {call' : κ} {p' : Program Result ε Unit}
    (found : Function.update tasks task none task' = some (call', p')) :
    task' ≠ task ∧ tasks task' = some (call', p') := by
  by_cases same : task' = task
  · subst same
    simp at found
  · rw [Function.update_of_ne same] at found
    exact ⟨same, found⟩

theorem step_other {action : PoolAction κ χ} {task' : Nat}
    (stepped : pool.step exec starter action = some pool') (other : task' ≠ action.task) :
    pool'.tasks task' = pool.tasks task' := by
  cases action with
  | spawn task call =>
      obtain ⟨p, s, -, -, rfl⟩ := step_spawn stepped
      exact Function.update_of_ne other _ _
  | advance task choice =>
      obtain ⟨call, op, next, result, s, -, -, rfl⟩ := step_advance stepped
      exact Function.update_of_ne other _ _
  | drop task =>
      obtain ⟨call, p, -, -, rfl⟩ := step_drop stepped
      exact Function.update_of_ne other _ _

theorem run_other {actions : List (PoolAction κ χ)} {task : Nat}
    (ran : run (step exec starter) pool actions = some pool')
    (others : ∀ action ∈ actions, task ≠ action.task) : pool'.tasks task = pool.tasks task := by
  induction actions generalizing pool with
  | nil => cases ran; rfl
  | cons action actions ih =>
      obtain ⟨between, stepped, rest⟩ := Option.bind_eq_some_iff.mp ran
      rw [ih rest fun later mem => others later (List.mem_cons_of_mem _ mem)]
      exact step_other stepped (others action List.mem_cons_self)

/-- A property of programs that what follows an operation inherits holds of every task, once it holds
of every program that starts. -/
theorem each_step {P : κ → Program Result ε Unit → Prop}
    (starts : ∀ s task call p s', starter.start s task call = some (p, s') → P call p)
    (inherited : ∀ call op next result, P call (.perform op next) → P call (next result))
    {action : PoolAction κ χ} (each : pool.Each P)
    (stepped : pool.step exec starter action = some pool') : pool'.Each P := by
  intro task' call' p' found
  cases action with
  | spawn task call =>
      obtain ⟨p, s, -, started, rfl⟩ := step_spawn stepped
      rcases task_of_update found with ⟨-, rfl, rfl⟩ | ⟨-, before⟩
      · exact starts _ _ _ _ _ started
      · exact each task' call' p' before
  | advance task choice =>
      obtain ⟨call, op, next, result, s, running, -, rfl⟩ := step_advance stepped
      rcases task_of_update found with ⟨-, rfl, rfl⟩ | ⟨-, before⟩
      · exact inherited _ op next result (each task _ _ running)
      · exact each task' call' p' before
  | drop task =>
      obtain ⟨call, p, running, -, rfl⟩ := step_drop stepped
      exact each task' call' p' (task_of_drop found).2

end Step

end Pool

end Ocpp.Library
