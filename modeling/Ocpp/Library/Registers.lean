import Mathlib.Data.List.Basic
import Mathlib.Logic.Function.Basic

/-!
# Registers

Keys that hold a value each and are written one after the other. Some are read-only; what another one holds is what was
written to it last.
-/

namespace Ocpp.Library

section LastWrite

variable {κ ν : Type*} [DecidableEq κ]

def lastWrite (writes : List (κ × ν)) (k : κ) : Option ν :=
  writes.reverse.lookup k

theorem lastWrite_append (earlier later : List (κ × ν)) (k : κ) :
    lastWrite (earlier ++ later) k = (lastWrite later k).or (lastWrite earlier k) := by
  rw [lastWrite, List.reverse_append, List.lookup_append]
  rfl

theorem lastWrite_singleton (k k' : κ) (v : ν) : lastWrite [(k', v)] k = if k = k' then some v else none := by
  simp only [lastWrite, List.reverse_singleton, List.lookup_cons, List.lookup_nil, beq_eq_decide]
  by_cases same : k = k' <;> simp [same]

/-- After a write to a key, the key holds its value or that of a later write to it. -/
theorem lastWrite_written (earlier later : List (κ × ν)) (k : κ) (v : ν) :
    lastWrite (earlier ++ (k, v) :: later) k = some ((lastWrite later k).getD v) := by
  rw [← List.singleton_append, ← List.append_assoc, lastWrite_append, lastWrite_append, lastWrite_singleton]
  cases lastWrite later k <;> simp

end LastWrite

@[ext] structure Registers (κ ν : Type*) where
  value : κ → Option ν
  readonly : κ → Bool

namespace Registers

variable {κ ν : Type*} [DecidableEq κ] (registers : Registers κ ν)

def write (entry : κ × ν) : Registers κ ν :=
  if registers.readonly entry.1 then registers
  else { registers with value := Function.update registers.value entry.1 (some entry.2) }

def writeAll (writes : List (κ × ν)) : Registers κ ν :=
  writes.foldl write registers

theorem readonly_write (entry : κ × ν) : (registers.write entry).readonly = registers.readonly := by
  unfold write
  split_ifs <;> rfl

theorem value_write (k k' : κ) (v : ν) : (registers.write (k, v)).value k' =
    if k' = k ∧ ¬registers.readonly k then some v else registers.value k' := by
  by_cases protected_ : registers.readonly k = true
  · simp [write, protected_]
  · by_cases same : k' = k <;> simp [write, protected_, same]

theorem readonly_writeAll (writes : List (κ × ν)) : (registers.writeAll writes).readonly = registers.readonly := by
  induction writes generalizing registers with
  | nil => rfl
  | cons entry rest ih => exact (ih (registers.write entry)).trans (registers.readonly_write entry)

theorem value_writeAll (writes : List (κ × ν)) (k : κ) : (registers.writeAll writes).value k =
    if registers.readonly k then registers.value k else (lastWrite writes k).or (registers.value k) := by
  induction writes generalizing registers with
  | nil => simp [writeAll, lastWrite]
  | cons entry rest ih =>
      have later := ih (registers.write entry)
      have split : lastWrite (entry :: rest) k =
          (lastWrite rest k).or (if k = entry.1 then some entry.2 else none) := by
        rw [← List.singleton_append, lastWrite_append]
        exact congrArg _ (lastWrite_singleton k entry.1 entry.2)
      rw [show registers.writeAll (entry :: rest) = (registers.write entry).writeAll rest from rfl, later,
        readonly_write, value_write, split]
      by_cases same : k = entry.1
      · subst same
        by_cases protected_ : registers.readonly entry.1 = true <;> simp [protected_]
      · simp [same]

theorem foldl_writeAll {α : Type*} (written : α → Option (κ × ν)) (xs : List α) :
    xs.foldl (fun registers x => registers.writeAll (written x).toList) registers =
      registers.writeAll (xs.filterMap written) := by
  induction xs generalizing registers with
  | nil => rfl
  | cons x rest ih =>
      rw [List.foldl_cons, ih, List.filterMap_cons]
      cases written x <;> rfl

/-- What the keys hold after the writes: as before what is read-only, and else what was written last. -/
def holding (writes : List (κ × ν)) : Registers κ ν where
  value k := if registers.readonly k then registers.value k else (lastWrite writes k).or (registers.value k)
  readonly := registers.readonly

theorem writeAll_eq (writes : List (κ × ν)) : registers.writeAll writes = registers.holding writes :=
  Registers.ext (funext (registers.value_writeAll writes)) (registers.readonly_writeAll writes)

end Registers

end Ocpp.Library
