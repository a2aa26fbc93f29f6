import Mathlib.Order.Bounds.Basic
import Mathlib.Order.MinMax
import Mathlib.Data.List.Basic
import Mathlib.Data.List.Induction

/-!
# Iterator adaptors

`max_by_key` of the Rust standard library, which returns the last of several elements with the
greatest key, folds with `min` and with `+`, the stable sort of `sort_by_key`, and `map` with a closure
that keeps a state.
-/

namespace Ocpp.Library

def maxByKey {α κ : Type*} [LE κ] [DecidableLE κ] (key : α → κ) (xs : List α) : Option α :=
  xs.foldl (fun best x =>
    match best with
    | none => some x
    | some b => if key b ≤ key x then some x else some b) none

section MaxByKey

variable {α κ : Type*} [LinearOrder κ] (key : α → κ)

theorem maxByKey_concat (xs : List α) (x : α) :
    maxByKey key (xs ++ [x]) = (match maxByKey key xs with
      | none => some x
      | some best => if key best ≤ key x then some x else some best) := by
  simp [maxByKey]

theorem maxByKey_eq_none {xs : List α} : maxByKey key xs = none ↔ xs = [] := by
  induction xs using List.reverseRecOn with
  | nil => simp [maxByKey]
  | append_singleton xs x ih =>
      rw [maxByKey_concat]
      cases maxByKey key xs with
      | none => simp
      | some best => by_cases later : key best ≤ key x <;> simp [later]

theorem maxByKey_greatest {xs : List α} {x : α} (found : maxByKey key xs = some x) :
    x ∈ xs ∧ ∀ y ∈ xs, key y ≤ key x := by
  induction xs using List.reverseRecOn generalizing x with
  | nil => simp [maxByKey] at found
  | append_singleton xs last ih =>
      rw [maxByKey_concat] at found
      cases before : maxByKey key xs with
      | none =>
          rw [before] at found
          cases found
          rw [(maxByKey_eq_none key).mp before]
          simp
      | some best =>
          obtain ⟨member, greatest⟩ := ih before
          simp only [before] at found
          by_cases later : key best ≤ key last
          · rw [if_pos later] at found
            cases found
            refine ⟨by simp, fun y among => ?_⟩
            rcases List.mem_append.mp among with early | here
            · exact (greatest y early).trans later
            · rw [List.mem_singleton.mp here]
          · rw [if_neg later] at found
            cases found
            refine ⟨List.mem_append_left _ member, fun y among => ?_⟩
            rcases List.mem_append.mp among with early | here
            · exact greatest y early
            · rw [List.mem_singleton.mp here]
              exact (not_le.mp later).le

theorem maxByKey_last {xs : List α} {x : α} (greatest : ∀ y ∈ xs, key y ≤ key x) :
    maxByKey key (xs ++ [x]) = some x := by
  rw [maxByKey_concat]
  cases before : maxByKey key xs with
  | none => rfl
  | some best => exact if_pos (greatest best (maxByKey_greatest key before).1)

theorem maxByKey_eq_of_perm {xs ys : List α} (same : xs.Perm ys)
    (distinct : ∀ x ∈ xs, ∀ y ∈ xs, key x = key y → x = y) : maxByKey key xs = maxByKey key ys := by
  cases left : maxByKey key xs with
  | none =>
      have empty := (maxByKey_eq_none key).mp left
      rw [empty] at same
      rw [← same.nil_eq]
      rfl
  | some x =>
      obtain ⟨member, greatest⟩ := maxByKey_greatest key left
      cases right : maxByKey key ys with
      | none =>
          rw [(maxByKey_eq_none key).mp right] at same
          rw [same.eq_nil] at member
          cases member
      | some y =>
          obtain ⟨member', greatest'⟩ := maxByKey_greatest key right
          have above := greatest y (same.mem_iff.mpr member')
          have below := greatest' x (same.mem_iff.mp member)
          rw [distinct x member y (same.mem_iff.mpr member') (le_antisymm below above)]

end MaxByKey

section FoldMin

variable {κ : Type*} [LinearOrder κ]

theorem le_foldl_min_iff (xs : List κ) (x z : κ) :
    z ≤ xs.foldl min x ↔ z ≤ x ∧ ∀ y ∈ xs, z ≤ y := by
  induction xs generalizing x with
  | nil => simp
  | cons y ys ih => simp [ih, and_assoc]

theorem foldl_min_le_iff (xs : List κ) (x z : κ) :
    xs.foldl min x ≤ z ↔ x ≤ z ∨ ∃ y ∈ xs, y ≤ z := by
  induction xs generalizing x with
  | nil => simp
  | cons y ys ih => simp [ih, or_assoc]

theorem foldl_min_isLeast (xs : List κ) (x : κ) :
    IsLeast {y | y = x ∨ y ∈ xs} (xs.foldl min x) := by
  obtain ⟨belowFirst, below⟩ := (le_foldl_min_iff xs x _).mp le_rfl
  refine ⟨?_, ?_⟩
  · rcases (foldl_min_le_iff xs x _).mp le_rfl with first | ⟨y, member, reached⟩
    · exact Or.inl (le_antisymm belowFirst first)
    · exact Or.inr (le_antisymm (below y member) reached ▸ member)
  · rintro z (rfl | member)
    · exact belowFirst
    · exact below z member

theorem foldl_min_eq_iff (xs ys : List κ) (x : κ) :
    xs.foldl min x = ys.foldl min x ↔
      (∀ y ∈ ys, x ≤ y ∨ ∃ z ∈ xs, z ≤ y) ∧ ∀ z ∈ xs, x ≤ z ∨ ∃ y ∈ ys, y ≤ z := by
  simp only [le_antisymm_iff, le_foldl_min_iff, foldl_min_le_iff, le_refl, true_or, true_and]

theorem map_foldl_min {μ : Type*} [LinearOrder μ] {f : κ → μ} (monotone : Monotone f)
    (xs : List κ) (x : κ) : f (xs.foldl min x) = (xs.map f).foldl min (f x) := by
  induction xs generalizing x with
  | nil => rfl
  | cons y ys ih => simp only [List.foldl_cons, List.map_cons, ih, monotone.map_min]

theorem below_eq_iff (a b bound : κ) :
    (if a < bound then some a else none) = (if b < bound then some b else none) ↔
      min bound a = min bound b := by
  rcases lt_or_ge a bound with aBelow | aAbove <;> rcases lt_or_ge b bound with bBelow | bAbove
  · simp [aBelow, bBelow, aBelow.le, bBelow.le]
  · simp [aBelow, bAbove, aBelow.le, not_lt.mpr bAbove, aBelow.ne]
  · simp [bBelow, aAbove, bBelow.le, not_lt.mpr aAbove, bBelow.ne']
  · simp [aAbove, bAbove, not_lt.mpr]

end FoldMin

theorem foldl_add_pos_iff {α : Type*} (f : α → Nat) (xs : List α) (n : Nat) :
    0 < xs.foldl (fun n x => n + f x) n ↔ 0 < n ∨ ∃ x ∈ xs, 0 < f x := by
  induction xs generalizing n with
  | nil => simp
  | cons x xs ih => simp only [List.foldl_cons, ih, Nat.add_pos_iff_pos_or_pos,
      List.exists_mem_cons_iff, or_assoc]

section Sorting

variable {α κ : Type*} [LinearOrder κ] (key : α → κ)

def sortByKey (xs : List α) : List α :=
  xs.mergeSort fun x y => key x ≤ key y

theorem sortByKey_perm (xs : List α) : (sortByKey key xs).Perm xs :=
  List.mergeSort_perm xs _

theorem sortByKey_sorted (xs : List α) : (sortByKey key xs).Pairwise fun x y => key x ≤ key y := by
  have sorted : (sortByKey key xs).Pairwise fun x y => decide (key x ≤ key y) = true := by
    apply List.pairwise_mergeSort
    · intro x y z first second
      exact decide_eq_true (le_trans (of_decide_eq_true first) (of_decide_eq_true second))
    · intro x y
      simpa using le_total (key x) (key y)
  simpa using sorted

theorem sortByKey_eq_of_perm {xs ys : List α} (same : xs.Perm ys)
    (distinct : ∀ x ∈ xs, ∀ y ∈ xs, key x = key y → x = y) : sortByKey key xs = sortByKey key ys := by
  apply List.Perm.eq_of_pairwise _ (sortByKey_sorted key xs) (sortByKey_sorted key ys)
  · exact (sortByKey_perm key xs).trans (same.trans (sortByKey_perm key ys).symm)
  · intro x y left right below above
    have member : y ∈ xs := same.mem_iff.mpr ((sortByKey_perm key ys).mem_iff.mp right)
    exact distinct x ((sortByKey_perm key xs).mem_iff.mp left) y member (le_antisymm below above)

end Sorting

section Stateful

variable {σ α β γ : Type*}

/-- `map` of a closure that changes a state, from one element to the next. -/
def mapWith (f : σ → α → β × σ) : σ → List α → List β
  | _, [] => []
  | s, x :: xs => (f s x).1 :: mapWith f (f s x).2 xs

theorem mapWith_map (f : σ → β → γ × σ) (g : α → β) (s : σ) (xs : List α) :
    mapWith f s (xs.map g) = mapWith (fun s x => f s (g x)) s xs := by
  induction xs generalizing s with
  | nil => rfl
  | cons x xs ih => simp only [List.map_cons, mapWith, ih]

theorem mapWith_congr {f g : σ → α → β × σ} {xs : List α} (same : ∀ x ∈ xs, ∀ s, f s x = g s x) (s : σ) :
    mapWith f s xs = mapWith g s xs := by
  induction xs generalizing s with
  | nil => rfl
  | cons x xs ih =>
      rw [mapWith, mapWith, same x List.mem_cons_self, ih fun y member => same y (List.mem_cons_of_mem x member)]

theorem mapWith_stateless (g : α → β) (xs : List α) : mapWith (fun (_ : Unit) x => (g x, ())) () xs = xs.map g := by
  induction xs with
  | nil => rfl
  | cons x xs ih => rw [mapWith, ih, List.map_cons]

/-- A closure that takes `n` elements of an iterator each time sees its windows of that width. -/
theorem mapWith_take (f : σ → List α → ℕ → β × σ) (n k : ℕ) (s : σ) (xs : List α) :
    mapWith (fun (rest, s) i => ((f s (rest.take n) i).1, (rest.drop n, (f s (rest.take n) i).2))) (xs, s)
        (List.range k) =
      mapWith (fun s i => f s ((xs.drop (i * n)).take n) i) s (List.range k) := by
  have later : ∀ start s, mapWith
      (fun (rest, s) i => ((f s (rest.take n) i).1, (rest.drop n, (f s (rest.take n) i).2))) (xs.drop (start * n), s)
        (List.range' start k) =
      mapWith (fun s i => f s ((xs.drop (i * n)).take n) i) s (List.range' start k) := by
    induction k with
    | zero => exact fun _ _ => rfl
    | succ k ih =>
        intro start s
        have next : (xs.drop (start * n)).drop n = xs.drop ((start + 1) * n) := by
          rw [List.drop_drop, Nat.succ_mul]
        simp only [List.range'_succ, mapWith, next, ih]
  simpa [List.range_eq_range'] using later 0 s

theorem flatMap_windows (xs : List α) (n k : ℕ) :
    ((List.range k).flatMap fun i => (xs.drop (i * n)).take n) = xs.take (k * n) := by
  induction k with
  | zero => simp
  | succ k ih =>
      rw [List.range_succ, List.flatMap_append, ih, Nat.succ_mul, List.take_add]
      simp

end Stateful

end Ocpp.Library
