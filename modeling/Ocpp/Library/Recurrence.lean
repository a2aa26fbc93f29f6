import Mathlib.Data.List.Sort
import Mathlib.Data.List.Destutter
import Mathlib.Tactic.Ring

/-!
# Schedules that run once or repeat

A schedule is a list of offsets at which something starts, an optional active span and an optional
recurrence period. `scheduleOffset` is the position inside the schedule at a given distance from its
anchor, if the schedule is active there. `boundaries` are the points of a window `(0, limit)` that
its starts and its end fall on. Between two boundaries the position moves on without reaching a
start or the end (`scheduleOffset_quiet`), unless the schedule restarts with no start at its origin.
-/

namespace Ocpp.Library

/-! ## Sorted lists without repetitions -/

def sortDedup (points : List Int) : List Int :=
  (points.insertionSort (· ≤ ·)).destutter (· ≠ ·)

theorem sortDedup_eq (points : List Int) :
    sortDedup points = (points.insertionSort (· ≤ ·)).dedup :=
  (List.pairwise_insertionSort (· ≤ ·) points).destutter_eq_dedup

@[simp] theorem mem_sortDedup {points : List Int} {t : Int} : t ∈ sortDedup points ↔ t ∈ points := by
  rw [sortDedup_eq, List.mem_dedup, List.mem_insertionSort]

theorem sortDedup_sorted (points : List Int) : (sortDedup points).Pairwise (· < ·) := by
  rw [sortDedup_eq]
  have le := (List.pairwise_insertionSort (· ≤ ·) points).sublist (List.dedup_sublist _)
  exact (le.and (List.nodup_dedup _)).imp fun ⟨le, ne⟩ => lt_of_le_of_ne le ne

theorem sortDedup_congr {points points' : List Int} (same : ∀ t, t ∈ points ↔ t ∈ points') :
    sortDedup points = sortDedup points' := by
  refine (sortDedup_sorted points).eq_of_mem_iff (sortDedup_sorted points') fun t => ?_
  rw [mem_sortDedup, mem_sortDedup, same t]

/-! ## The position inside a schedule -/

/-- The distance from the anchor, wrapped into the recurrence period. A schedule that runs once has
no position before its anchor. -/
def wrapOffset (period : Option Int) (raw : Int) : Option Int :=
  match period with
  | some p => some (raw % p)
  | none => if raw < 0 then none else some raw

def scheduleOffset (period duration : Option Int) (raw : Int) : Option Int :=
  (wrapOffset period raw).bind fun offset =>
    match duration with
    | some d => if d ≤ offset then none else some offset
    | none => some offset

theorem emod_eq_pred_succ (a p : Int) (positive : 0 < p) (nonzero : a % p ≠ 0) :
    a % p = (a - 1) % p + 1 := by
  have low := Int.emod_nonneg a (ne_of_gt positive)
  have high := Int.emod_lt_of_pos a positive
  have split : a - 1 = (a % p - 1) + p * (a / p) := by
    rw [show a % p - 1 + p * (a / p) = a % p + p * (a / p) - 1 by ring, Int.emod_add_mul_ediv]
  rw [split, Int.add_mul_emod_self_left, Int.emod_eq_of_lt (a := a % p - 1) (by omega) (by omega)]
  omega

theorem wrapOffset_pred {period : Option Int} (positive : ∀ p ∈ period, 0 < p) {raw : Int}
    (inside : wrapOffset period raw ≠ some 0) :
    wrapOffset period raw = (wrapOffset period (raw - 1)).map (· + 1) := by
  cases period with
  | some p =>
      have nonzero : raw % p ≠ 0 := by simpa [wrapOffset] using inside
      simp [wrapOffset, emod_eq_pred_succ raw p (positive p rfl) nonzero]
  | none =>
      have nonzero : raw ≠ 0 := by
        rintro rfl
        simp [wrapOffset] at inside
      by_cases early : raw < 0
      · have : raw - 1 < 0 := by omega
        simp [wrapOffset, early, this]
      · have : ¬raw - 1 < 0 := by omega
        simp [wrapOffset, early, this]

/-! ## The boundaries of a schedule -/

def pushed (limit : Int) (offsets : List Int) : List Int :=
  offsets.filter fun o => 0 < o && o < limit

@[simp] theorem mem_pushed {limit t : Int} {offsets : List Int} :
    t ∈ pushed limit offsets ↔ t ∈ offsets ∧ 0 < t ∧ t < limit := by
  simp [pushed]

def occurrence (starts : List Int) (duration : Option Int) (start : Int) : List Int :=
  starts.map (start + ·) ++ duration.toList.map (start + ·)

theorem mem_occurrence {starts : List Int} {duration : Option Int} {start t : Int} :
    t ∈ occurrence starts duration start ↔
      (∃ s ∈ starts, start + s = t) ∨ ∃ d ∈ duration, start + d = t := by
  simp [occurrence]

/-- Emit the occurrences from `start` on, one `period` apart, until one begins at or after `limit`.
The fuel is a bound on their number. -/
def occurrences (starts : List Int) (duration : Option Int) (period limit : Int) :
    Nat → Int → List Int
  | 0, _ => []
  | fuel + 1, start =>
      if limit ≤ start then []
      else pushed limit (occurrence starts duration start) ++
        occurrences starts duration period limit fuel (start + period)

theorem mem_occurrences {starts : List Int} {duration : Option Int} {period limit : Int}
    (positive : 0 < period) {fuel : Nat} {start t : Int} (enough : limit - start ≤ fuel) :
    t ∈ occurrences starts duration period limit fuel start ↔
      ∃ k : Nat, start + k * period < limit ∧
        t ∈ pushed limit (occurrence starts duration (start + k * period)) := by
  induction fuel generalizing start with
  | zero =>
      simp only [occurrences, List.not_mem_nil, false_iff, not_exists, not_and]
      intro k below
      have := Int.mul_nonneg (Int.natCast_nonneg k) positive.le
      push_cast at enough
      omega
  | succ fuel ih =>
      by_cases past : limit ≤ start
      · simp only [occurrences, past, if_true, List.not_mem_nil, false_iff, not_exists, not_and]
        intro k below
        have := Int.mul_nonneg (Int.natCast_nonneg k) positive.le
        omega
      · simp only [occurrences, past, if_false, List.mem_append]
        rw [ih (by push_cast at enough ⊢; omega)]
        constructor
        · rintro (now | ⟨k, below, later⟩)
          · exact ⟨0, by simpa using past, by simpa using now⟩
          · refine ⟨k + 1, ?_, ?_⟩
            · push_cast
              rw [add_mul, one_mul]
              omega
            · push_cast
              rwa [add_mul, one_mul, show start + (k * period + period) = start + period + k * period by ring]
        · rintro ⟨k, below, found⟩
          cases k with
          | zero => exact Or.inl (by simpa using found)
          | succ k =>
              refine Or.inr ⟨k, ?_, ?_⟩
              · push_cast at below
                rw [add_mul, one_mul] at below
                omega
              · push_cast at found
                rwa [add_mul, one_mul, show start + (k * period + period) = start + period + k * period by ring] at found

def singleBoundaries (starts : List Int) (duration : Option Int) (limit base : Int) : List Int :=
  pushed limit (occurrence starts duration base)

def recurringBoundaries (starts : List Int) (duration : Option Int) (limit base period : Int) :
    List Int :=
  let first := base + (-base) / period * period
  occurrences starts duration period limit (limit - first).toNat first

def boundaries (starts : List Int) (duration : Option Int) (limit base : Int) :
    Option Int → List Int
  | some period => recurringBoundaries starts duration limit base period
  | none => singleBoundaries starts duration limit base

theorem occurrences_inside {starts : List Int} {duration : Option Int} {period limit : Int}
    {fuel : Nat} {start t : Int} (member : t ∈ occurrences starts duration period limit fuel start) :
    0 < t ∧ t < limit := by
  induction fuel generalizing start with
  | zero => simp [occurrences] at member
  | succ fuel ih =>
      simp only [occurrences] at member
      split at member
      · simp at member
      · rcases List.mem_append.mp member with member | member
        · exact (mem_pushed.mp member).2
        · exact ih member

theorem boundaries_inside {starts : List Int} {duration period : Option Int} {limit base t : Int}
    (member : t ∈ boundaries starts duration limit base period) : 0 < t ∧ t < limit := by
  cases period with
  | none => exact (mem_pushed.mp member).2
  | some p => exact occurrences_inside member

theorem mem_boundaries {starts : List Int} {duration period : Option Int} {limit base t s : Int}
    (positive : ∀ p ∈ period, 0 < p) (low : 0 < t) (high : t < limit)
    (landed : wrapOffset period (t - base) = some s) (marked : s ∈ starts ∨ s ∈ duration) :
    t ∈ boundaries starts duration limit base period := by
  have hit (start : Int) (reached : start + s = t) :
      t ∈ pushed limit (occurrence starts duration start) := by
    rw [mem_pushed, mem_occurrence]
    refine ⟨?_, low, high⟩
    rcases marked with marked | marked
    · exact Or.inl ⟨s, marked, reached⟩
    · exact Or.inr ⟨s, marked, reached⟩
  cases period with
  | none =>
      by_cases early : t - base < 0
      · simp [wrapOffset, early] at landed
      · simp only [wrapOffset, early, if_false, Option.some.injEq] at landed
        exact hit base (by omega)
  | some p =>
      have pos : 0 < p := positive p rfl
      simp only [wrapOffset, Option.some.injEq] at landed
      -- the occurrence that covers `t`, counted from the one that covers the window's start
      obtain ⟨k, count⟩ : ∃ k : Nat, (t - base) / p = (-base) / p + k := by
        have le : (-base) / p ≤ (t - base) / p := Int.ediv_le_ediv pos (by omega)
        exact ⟨((t - base) / p - (-base) / p).toNat, by omega⟩
      have start : base + (-base) / p * p + k * p + s = t := by
        have division := Int.emod_add_mul_ediv (t - base) p
        rw [count] at division
        have expand : p * ((-base) / p + k) = (-base) / p * p + k * p := by ring
        rw [expand, landed] at division
        omega
      have nonneg : 0 ≤ s := landed ▸ Int.emod_nonneg _ (ne_of_gt pos)
      show t ∈ occurrences starts duration p limit _ _
      rw [mem_occurrences pos (by omega)]
      exact ⟨k, by omega, hit _ (by omega)⟩

/-- Between two boundaries the schedule is active before and after, or neither, and has reached the
same starts, unless it begins at `t` with no start at its origin. -/
theorem scheduleOffset_quiet {starts : List Int} {duration period : Option Int} {limit base t : Int}
    (positive : ∀ p ∈ period, 0 < p) (low : 0 < t) (high : t < limit)
    (quiet : t ∉ boundaries starts duration limit base period)
    (restart : wrapOffset period (t - base) = some 0 → 0 ∈ starts) :
    (scheduleOffset period duration (t - base) = none ∧
      scheduleOffset period duration (t - 1 - base) = none) ∨
    ∃ now before, scheduleOffset period duration (t - base) = some now ∧
      scheduleOffset period duration (t - 1 - base) = some before ∧
      ∀ s ∈ starts, s ≤ now ↔ s ≤ before := by
  have inside : wrapOffset period (t - base) ≠ some 0 := fun origin =>
    quiet (mem_boundaries positive low high origin (Or.inl (restart origin)))
  have moved := wrapOffset_pred positive inside
  rw [show t - base - 1 = t - 1 - base by ring] at moved
  simp only [scheduleOffset]
  cases before : wrapOffset period (t - 1 - base) with
  | none => exact Or.inl (by simp [moved, before])
  | some offset =>
      have now : wrapOffset period (t - base) = some (offset + 1) := by simp [moved, before]
      have unmarked (s : Int) (marked : s ∈ starts ∨ s ∈ duration) : s ≠ offset + 1 := by
        rintro rfl
        exact quiet (mem_boundaries positive low high now marked)
      have same (s : Int) (marked : s ∈ starts) : s ≤ offset + 1 ↔ s ≤ offset := by
        have := unmarked s (Or.inl marked)
        omega
      rw [now]
      cases duration with
      | none => exact Or.inr ⟨offset + 1, offset, rfl, rfl, same⟩
      | some d =>
          have := unmarked d (Or.inr rfl)
          by_cases ended : d ≤ offset
          · have ended' : d ≤ offset + 1 := by omega
            exact Or.inl (by simp [ended, ended'])
          · have ended' : ¬d ≤ offset + 1 := by omega
            exact Or.inr ⟨offset + 1, offset, by simp [ended'], by simp [ended], same⟩

end Ocpp.Library
