import Ocpp.Library.Pool

/-!
# Protocols of tasks

A protocol says what a task may perform in each phase it can be in, and to which phase a result leads it.
The phases of the tasks of a pool are not part of the pool: they record what each task has done so far.
-/

namespace Ocpp.Library

variable {Op : Type} {Result : Op → Type} {ε ε' α β φ : Type}

structure Protocol (Result : Op → Type) (φ : Type) where
  allowed : φ → Op → Prop
  after : φ → (op : Op) → Result op → φ

/-- The protocol allows the operation and stays in the phase. -/
def Protocol.Ignores (protocol : Protocol Result φ) (phase : φ) (op : Op) : Prop :=
  protocol.allowed phase op ∧ ∀ result, protocol.after phase op result = phase

namespace Program

/-- Every operation the program can perform, started in the phase, is allowed when it is reached. -/
def Obeys (protocol : Protocol Result φ) : Program Result ε α → φ → Prop
  | ret _, _ | fail _, _ => True
  | perform op next, phase =>
      protocol.allowed phase op ∧ ∀ result, (next result).Obeys protocol (protocol.after phase op result)

section Obeys

variable {protocol : Protocol Result φ} {p : Program Result ε α} {f : α → Program Result ε β} {phase : φ}

theorem Obeys.bind (first : p.Obeys protocol phase) (rest : ∀ value phase', (f value).Obeys protocol phase') :
    (p >>= f).Obeys protocol phase := by
  induction p generalizing phase with
  | ret value => exact rest value phase
  | fail error => trivial
  | perform op next ih => exact ⟨first.1, fun result => ih result (first.2 result)⟩

theorem Obeys.attempt (first : p.Obeys protocol phase) :
    (p.attempt : Program Result ε' (Except ε α)).Obeys protocol phase := by
  induction p generalizing phase with
  | ret value => trivial
  | fail error => trivial
  | perform op next ih => exact ⟨first.1, fun result => ih result (first.2 result)⟩

theorem Obeys.forM {body : β → Program Result ε PUnit}
    (each : ∀ item phase', (body item).Obeys protocol phase') (items : List β) :
    (items.forM body).Obeys protocol phase := by
  induction items generalizing phase with
  | nil => trivial
  | cons item items ih => exact (each item phase).bind fun _ _ => ih

theorem Within.obeys_bind (within : p.Within (protocol.Ignores phase))
    (rest : ∀ value, (f value).Obeys protocol phase) : (p >>= f).Obeys protocol phase := by
  induction p with
  | ret value => exact rest value
  | fail error => trivial
  | perform op next ih =>
      refine ⟨within.1.1, fun result => ?_⟩
      rw [within.1.2 result]
      exact ih result (within.2 result)

theorem Within.obeys (within : p.Within (protocol.Ignores phase)) : p.Obeys protocol phase := by
  induction p with
  | ret value => trivial
  | fail error => trivial
  | perform op next ih =>
      refine ⟨within.1.1, fun result => ?_⟩
      rw [within.1.2 result]
      exact ih result (within.2 result)

end Obeys

end Program

/-! ## Pools -/

namespace Pool

variable {σ χ κ : Type} {exec : σ → (op : Op) → χ → Option (Result op × σ)}
  {starter : Starter Result ε σ κ} {protocol : Protocol Result φ} {phases : Nat → φ}
  {pool : Pool Result ε σ κ}

/-- Every task obeys the protocol from the phase it is in. -/
def Obeys (protocol : Protocol Result φ) (pool : Pool Result ε σ κ) (phases : Nat → φ) : Prop :=
  ∀ task call p, pool.tasks task = some (call, p) → p.Obeys protocol (phases task)

theorem Obeys.started {task : Nat} {call : κ} {p : Program Result ε Unit} {s : σ}
    (obeys : pool.Obeys protocol phases) (initial : φ) (starts : p.Obeys protocol initial) :
    Pool.Obeys protocol (⟨s, Function.update pool.tasks task (live call p)⟩ : Pool Result ε σ κ)
      (Function.update phases task initial) := by
  intro task' call' p' found
  rcases task_of_update found with ⟨rfl, -, rfl⟩ | ⟨other, before⟩
  · rwa [Function.update_self]
  · rw [Function.update_of_ne other]
    exact obeys task' call' p' before

theorem Obeys.performed {task : Nat} {call : κ} {op : Op} {next : Result op → Program Result ε Unit}
    {s : σ} (obeys : pool.Obeys protocol phases)
    (running : pool.tasks task = some (call, .perform op next)) (result : Result op) :
    Pool.Obeys protocol (⟨s, Function.update pool.tasks task (live call (next result))⟩ : Pool Result ε σ κ)
      (Function.update phases task (protocol.after (phases task) op result)) :=
  obeys.started _ ((obeys task call _ running).2 result)

theorem Obeys.dropped {task : Nat} {s : σ} (obeys : pool.Obeys protocol phases) :
    Pool.Obeys protocol (⟨s, Function.update pool.tasks task none⟩ : Pool Result ε σ κ) phases :=
  fun task' call' p' found => obeys task' call' p' (task_of_drop found).2

end Pool

end Ocpp.Library
