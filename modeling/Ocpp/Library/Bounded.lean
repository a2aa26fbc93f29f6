import Mathlib.Data.List.DropRight
import Mathlib.Data.List.Induction
import Mathlib.Data.List.Infix
import Mathlib.Algebra.BigOperators.Group.List.Basic
import Mathlib.Algebra.Ring.Int.Defs

/-!
# Bounded histories and integers

A history that makes room for a new entry by dropping its oldest one, and sums of 32-bit integers, whose operators wrap
around.
-/

namespace Ocpp.Library

section Recent

variable {α : Type*} {size : ℕ} {history log : List α} {x y : α}

def pushRecent (size : ℕ) (history : List α) (x : α) : List α :=
  (if size ≤ history.length then history.tail else history) ++ [x]

theorem pushRecent_suffix : pushRecent size history x <:+ history ++ [x] := by
  rw [pushRecent]
  split_ifs
  · exact (List.suffix_append_inj_of_length_eq rfl).mpr ⟨List.tail_suffix history, rfl⟩
  · exact List.suffix_refl _

theorem mem_pushRecent (member : y ∈ pushRecent size history x) : y ∈ history ∨ y = x := by
  simpa using pushRecent_suffix.mem member

theorem map_pushRecent {β : Type*} (f : α → β) :
    (pushRecent size history x).map f = pushRecent size (history.map f) (f x) := by
  rw [pushRecent, pushRecent, List.map_append, List.map_singleton, List.length_map]
  split_ifs
  · rw [List.map_tail]
  · rfl

theorem getLast?_pushRecent : (pushRecent size history x).getLast? = some x :=
  List.getLast?_concat

/-- A history of everything pushed so far keeps the newest entries of it. -/
theorem pushRecent_rtake (room : 0 < size) : pushRecent size (log.rtake size) x = (log ++ [x]).rtake size := by
  rw [pushRecent]
  simp only [List.rtake, List.length_drop, List.length_append, List.length_singleton]
  split_ifs with full
  · rw [List.tail_drop, List.drop_append_of_le_length (by omega)]
    congr 2
    omega
  · rw [Nat.sub_eq_zero_of_le (by omega), Nat.sub_eq_zero_of_le (by omega), List.drop_zero, List.drop_zero]

theorem rtake_suffix : log.rtake size <:+ log :=
  List.drop_suffix _ log

theorem getLast?_rtake (room : 0 < size) : (log.rtake size).getLast? = log.getLast? := by
  obtain ⟨size, rfl⟩ := Nat.exists_eq_add_one_of_ne_zero room.ne'
  induction log using List.reverseRecOn with
  | nil => rw [List.rtake_nil]
  | append_singleton log x _ => rw [List.rtake_concat_succ, List.getLast?_concat, List.getLast?_concat]

end Recent

namespace I32

def Fits (n : ℤ) : Prop :=
  -2 ^ 31 ≤ n ∧ n < 2 ^ 31

instance (n : ℤ) : Decidable (Fits n) := inferInstanceAs (Decidable (_ ∧ _))

theorem bmod_of_fits {n : ℤ} (fits : Fits n) : n.bmod (2 ^ 32) = n :=
  Int.bmod_eq_of_le fits.1 fits.2

theorem toInt_add {a b : Int32} (fits : Fits (a.toInt + b.toInt)) : (a + b).toInt = a.toInt + b.toInt := by
  rw [Int32.toInt_add, bmod_of_fits fits]

theorem toInt_sub {a b : Int32} (fits : Fits (a.toInt - b.toInt)) : (a - b).toInt = a.toInt - b.toInt := by
  rw [Int32.toInt_sub, bmod_of_fits fits]

/-- `sum` of an iterator. -/
def sum (ns : List Int32) : Int32 :=
  ns.foldl (· + ·) 0

theorem sum_concat (ns : List Int32) (n : Int32) : sum (ns ++ [n]) = sum ns + n := by
  rw [sum, List.foldl_append]
  rfl

/-- No sum on the way from the first to the last is out of range. -/
def SumsFit (ns : List ℤ) : Prop :=
  ∀ earlier, earlier <+: ns → Fits earlier.sum

theorem SumsFit.initial {ns earlier : List ℤ} (fit : SumsFit ns) (shorter : earlier <+: ns) : SumsFit earlier :=
  fun _ earliest => fit _ (earliest.trans shorter)

instance (ns : List ℤ) : Decidable (SumsFit ns) :=
  decidable_of_iff (∀ earlier ∈ ns.inits, Fits earlier.sum) (by simp only [List.mem_inits, SumsFit])

theorem sumsFit_nil : SumsFit [] := by
  intro earlier initial
  rw [List.prefix_nil.mp initial]
  decide

theorem toInt_sum {ns : List Int32} (fit : SumsFit (ns.map Int32.toInt)) :
    (sum ns).toInt = (ns.map Int32.toInt).sum := by
  induction ns using List.reverseRecOn with
  | nil => rfl
  | append_singleton ns n ih =>
      rw [List.map_append] at fit ⊢
      have before := ih (fit.initial (List.prefix_append _ _))
      have whole := fit _ (List.prefix_refl _)
      rw [List.sum_append, List.map_singleton, List.sum_singleton, ← before] at whole
      rw [sum_concat, toInt_add whole, List.sum_append, List.map_singleton, List.sum_singleton, before]

end I32

end Ocpp.Library
