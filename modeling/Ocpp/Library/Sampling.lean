import Mathlib.Data.List.Basic
import Mathlib.Tactic.Ring

/-!
# Sampling a step function

A value that changes over the integers `0, 1, 2, …` is read at a sorted list of sample points and
the readings are written down as runs: an entry where the value is present and differs from the
previous reading. The entry in force at `t` then carries the latest reading at or before `t` that
had a value (`heldAt_coalesce`), and the runs reproduce the value at every point exactly when every
point that is not sampled repeats the latest value before it (`coalesce_faithful_iff`).
-/

namespace Ocpp.Library

variable {β : Type*}

/-- Runs of the readings at the given points, after a reading of `previous`. -/
def coalesceFrom [DecidableEq β] (value : Int → Option β) : Option β → List Int → List (Int × β)
  | _, [] => []
  | previous, t :: ts =>
      match value t with
      | none => coalesceFrom value none ts
      | some v =>
          if previous = some v then coalesceFrom value (some v) ts
          else (t, v) :: coalesceFrom value (some v) ts

def coalesce [DecidableEq β] (value : Int → Option β) (points : List Int) : List (Int × β) :=
  coalesceFrom value none points

def heldAt (entries : List (Int × β)) (t : Int) : Option β :=
  (entries.filter fun e => e.1 ≤ t).getLast?.map Prod.snd

def sampledAt (value : Int → Option β) (points : List Int) (t : Int) : Option β :=
  ((points.filter (· ≤ t)).filterMap value).getLast?

/-- `v` is the value at the latest point of `[0, t)` that has one. -/
def LatestBefore (value : Int → Option β) (t : Int) (v : β) : Prop :=
  ∃ u, 0 ≤ u ∧ u < t ∧ value u = some v ∧ ∀ w, u < w → w < t → value w = none

theorem heldAt_cons (u : Int) (v : β) (entries : List (Int × β)) (t : Int) (reached : u ≤ t) :
    heldAt ((u, v) :: entries) t = (heldAt entries t).or (some v) := by
  simp only [heldAt, List.filter_cons, reached, decide_true, if_true, List.getLast?_cons]
  cases (entries.filter fun e => e.1 ≤ t).getLast? <;> rfl

theorem getLast?_filter_map {π : Type*} (record : Int × β → π) (start : π → Int)
    (keeps : ∀ e, start (record e) = e.1) (entries : List (Int × β)) (t : Int) :
    ((entries.map record).filter fun r => start r ≤ t).getLast? =
      (entries.filter fun e => e.1 ≤ t).getLast?.map record := by
  rw [List.filter_map, List.getLast?_map]
  simp only [Function.comp_def, keeps]

theorem sampledAt_cons (value : Int → Option β) (u : Int) (points : List Int) (t : Int)
    (reached : u ≤ t) :
    sampledAt value (u :: points) t = (sampledAt value points t).or (value u) := by
  simp only [sampledAt, List.filter_cons, reached, decide_true, if_true]
  cases reading : value u with
  | none => simp [reading]
  | some v =>
      simp only [List.filterMap_cons, reading, List.getLast?_cons]
      cases ((points.filter (· ≤ t)).filterMap value).getLast? <;> rfl

/-! ## The runs -/

section Runs

variable [DecidableEq β]

theorem coalesceFrom_starts_sublist (value : Int → Option β) (previous : Option β)
    (points : List Int) : ((coalesceFrom value previous points).map Prod.fst).Sublist points := by
  induction points generalizing previous with
  | nil => simp [coalesceFrom]
  | cons t ts ih =>
      simp only [coalesceFrom]
      split
      · exact (ih _).cons _
      · split
        · exact (ih _).cons _
        · exact (ih _).cons_cons _

theorem coalesce_starts_sublist (value : Int → Option β) (points : List Int) :
    ((coalesce value points).map Prod.fst).Sublist points :=
  coalesceFrom_starts_sublist value none points

theorem coalesce_eq_nil (value : Int → Option β) (points : List Int) :
    coalesce value points = [] ↔ ∀ t ∈ points, value t = none := by
  unfold coalesce
  induction points with
  | nil => simp [coalesceFrom]
  | cons t ts ih =>
      cases reading : value t <;> simp [coalesceFrom, reading, ih]

theorem coalesceFrom_congr {value value' : Int → Option β} {points : List Int}
    (same : ∀ t ∈ points, value t = value' t) (previous : Option β) :
    coalesceFrom value previous points = coalesceFrom value' previous points := by
  induction points generalizing previous with
  | nil => rfl
  | cons t ts ih =>
      have later := ih fun u member => same u (List.mem_cons_of_mem t member)
      simp only [coalesceFrom, same t List.mem_cons_self, later]

theorem coalesceFrom_injective {value value' : Int → Option β} {points : List Int}
    (sorted : points.Pairwise (· < ·)) (present : ∀ t ∈ points, (value t).isSome = (value' t).isSome)
    {previous : Option β}
    (same : coalesceFrom value previous points = coalesceFrom value' previous points) :
    ∀ t ∈ points, value t = value' t := by
  induction points generalizing previous with
  | nil => simp
  | cons t ts ih =>
      obtain ⟨late, sorted'⟩ := List.pairwise_cons.mp sorted
      have later := fun u member => present u (List.mem_cons_of_mem t member)
      have here := present t List.mem_cons_self
      -- a run that starts at `t` is no run of the points after `t`
      have fresh : ∀ (reading : Int → Option β) previous v entries,
          coalesceFrom reading previous ts ≠ (t, v) :: entries := by
        intro reading previous v entries runs
        have start := coalesceFrom_starts_sublist reading previous ts
        rw [runs] at start
        exact lt_irrefl t (late t (start.subset List.mem_cons_self))
      cases left : value t with
      | none =>
          have right : value' t = none := by simpa [left] using here
          simp only [coalesceFrom, left, right] at same
          simpa [left, right] using ih sorted' later same
      | some v =>
          obtain ⟨v', right⟩ := Option.isSome_iff_exists.mp (by simpa [left] using here)
          simp only [coalesceFrom, left, right] at same
          have equal : v = v' ∧ coalesceFrom value (some v) ts = coalesceFrom value' (some v') ts := by
            split_ifs at same with first second second
            · exact ⟨Option.some.inj (first.symm.trans second), same⟩
            · exact absurd same (fresh value _ _ _)
            · exact absurd same.symm (fresh value' _ _ _)
            · obtain ⟨head, tail⟩ := List.cons.inj same
              exact ⟨(Prod.mk.inj head).2, tail⟩
          obtain ⟨rfl, tail⟩ := equal
          simpa [left, right] using ih sorted' later tail

theorem coalesceFrom_filter_nil (value : Int → Option β) (previous : Option β) (points : List Int)
    (t : Int) (late : ∀ u ∈ points, t < u) :
    (coalesceFrom value previous points).filter (fun e => e.1 ≤ t) = [] := by
  apply List.filter_eq_nil_iff.mpr
  intro e member
  have start := (coalesceFrom_starts_sublist value previous points).subset
    (List.mem_map_of_mem (f := Prod.fst) member)
  simpa using late _ start

/-- The invariant of the pass: `current` is what the entries emitted so far hold, and a present
previous reading is what they hold. -/
theorem heldAt_coalesceFrom (value : Int → Option β) (t : Int) (points : List Int)
    (sorted : points.Pairwise (· < ·)) (previous current : Option β)
    (agree : ∀ v, previous = some v → current = some v) :
    (heldAt (coalesceFrom value previous points) t).or current =
      (sampledAt value points t).or current := by
  induction points generalizing previous current with
  | nil => simp [coalesceFrom, heldAt, sampledAt]
  | cons u us ih =>
      obtain ⟨later, sorted'⟩ := List.pairwise_cons.mp sorted
      by_cases reached : u ≤ t
      · cases reading : value u with
        | none =>
            simpa [coalesceFrom, reading, sampledAt_cons value u us t reached] using
              ih sorted' none current (by simp)
        | some v =>
            have tail := ih sorted' (some v) (some v) (by simp)
            rw [sampledAt_cons value u us t reached, reading]
            by_cases same : previous = some v
            · obtain rfl := agree v same
              simpa [coalesceFrom, reading, same] using tail
            · simp only [coalesceFrom, reading, same, if_false]
              rw [heldAt_cons u v _ t reached, tail]
      · have late : ∀ w ∈ u :: us, t < w := by
          intro w member
          rcases List.mem_cons.mp member with rfl | member
          · omega
          · have := later w member
            omega
        have unread : (u :: us).filter (· ≤ t) = [] := by
          apply List.filter_eq_nil_iff.mpr
          intro w member
          simpa using late w member
        simp [heldAt, coalesceFrom_filter_nil value previous (u :: us) t late, sampledAt, unread]

theorem heldAt_coalesce (value : Int → Option β) (points : List Int)
    (sorted : points.Pairwise (· < ·)) (t : Int) :
    heldAt (coalesce value points) t = sampledAt value points t := by
  simpa [coalesce] using heldAt_coalesceFrom value t points sorted none none (by simp)

end Runs

/-! ## Faithful runs -/

theorem filter_le_succ (points : List Int) (sorted : points.Pairwise (· < ·)) (t : Int) :
    points.filter (· ≤ t + 1) =
      points.filter (· ≤ t) ++ if t + 1 ∈ points then [t + 1] else [] := by
  induction points with
  | nil => simp
  | cons u us ih =>
      obtain ⟨later, sorted'⟩ := List.pairwise_cons.mp sorted
      have absent (beyond : t + 1 ≤ u) (bound : Int) (le : bound ≤ t + 1) :
          us.filter (· ≤ bound) = [] := by
        apply List.filter_eq_nil_iff.mpr
        intro w member
        have := later w member
        simp only [decide_eq_true_eq, not_le]
        omega
      rcases lt_trichotomy u (t + 1) with lt | rfl | gt
      · have here : u ≤ t + 1 := by omega
        have before : u ≤ t := by omega
        have ne : t + 1 ≠ u := by omega
        simp [here, before, ih sorted', ne]
      · have after : ¬t + 1 ≤ t := by omega
        simp [after, absent le_rfl]
      · have here : ¬u ≤ t + 1 := by omega
        have before : ¬u ≤ t := by omega
        have missing : t + 1 ∉ u :: us := by
          intro member
          rcases List.mem_cons.mp member with eq | member
          · omega
          · have := later _ member
            omega
        simp [here, before, missing, absent (by omega)]

theorem sampledAt_succ_of_mem (value : Int → Option β) (points : List Int)
    (sorted : points.Pairwise (· < ·)) (t : Int) (member : t + 1 ∈ points) :
    sampledAt value points (t + 1) = (value (t + 1)).or (sampledAt value points t) := by
  simp only [sampledAt, filter_le_succ points sorted t, member, if_true, List.filterMap_append]
  cases reading : value (t + 1) <;> simp [reading]

theorem sampledAt_succ_of_not_mem (value : Int → Option β) (points : List Int)
    (sorted : points.Pairwise (· < ·)) (t : Int) (missing : t + 1 ∉ points) :
    sampledAt value points (t + 1) = sampledAt value points t := by
  simp [sampledAt, filter_le_succ points sorted t, missing]

theorem sampledAt_zero (value : Int → Option β) (points : List Int)
    (sorted : points.Pairwise (· < ·)) (zero : 0 ∈ points) (nonneg : ∀ u ∈ points, 0 ≤ u) :
    sampledAt value points 0 = value 0 := by
  have early : points.filter (· ≤ -1) = [] := by
    apply List.filter_eq_nil_iff.mpr
    intro u member
    have := nonneg u member
    simp only [decide_eq_true_eq, not_le]
    omega
  have step := sampledAt_succ_of_mem value points sorted (-1) (by simpa using zero)
  simpa [sampledAt, early] using step

theorem latestBefore_succ_of_some (value : Int → Option β) (t : Int) (nonneg : 0 ≤ t) {w : β}
    (here : value t = some w) (v : β) : LatestBefore value (t + 1) v ↔ w = v := by
  constructor
  · rintro ⟨u, -, before, there, gap⟩
    rcases lt_or_eq_of_le (Int.lt_add_one_iff.mp before) with lt | rfl
    · simp [gap t lt (by omega)] at here
    · exact Option.some.inj (here.symm.trans there)
  · rintro rfl
    exact ⟨t, nonneg, by omega, here, fun x lt gt => by omega⟩

theorem latestBefore_succ_of_none (value : Int → Option β) (t : Int) (here : value t = none)
    (v : β) : LatestBefore value (t + 1) v ↔ LatestBefore value t v := by
  constructor
  · rintro ⟨u, nonneg, before, there, gap⟩
    have ne : u ≠ t := by
      rintro rfl
      simp [here] at there
    exact ⟨u, nonneg, by omega, there, fun w lt gt => gap w lt (by omega)⟩
  · rintro ⟨u, nonneg, before, there, gap⟩
    refine ⟨u, nonneg, by omega, there, fun w lt gt => ?_⟩
    rcases lt_or_eq_of_le (Int.lt_add_one_iff.mp gt) with lt' | rfl
    · exact gap w lt lt'
    · exact here

section Faithful

variable (value : Int → Option β) (points : List Int) (sorted : points.Pairwise (· < ·))
  (zero : 0 ∈ points) (nonneg : ∀ u ∈ points, 0 ≤ u)
include sorted zero nonneg

theorem sampledAt_eq_latest (n : Nat)
    (faithful : ∀ t : Int, 0 ≤ t → t ≤ n → ∀ v, value t = some v → sampledAt value points t = some v)
    (v : β) : sampledAt value points n = some v ↔ LatestBefore value (n + 1) v := by
  induction n with
  | zero =>
      rw [Nat.cast_zero, sampledAt_zero value points sorted zero nonneg]
      cases here : value 0 with
      | none =>
          rw [latestBefore_succ_of_none value 0 here]
          simp only [reduceCtorEq, false_iff]
          rintro ⟨u, low, high, -⟩
          omega
      | some w =>
          rw [latestBefore_succ_of_some value 0 le_rfl here]
          simp
  | succ n ih =>
      have earlier := ih fun t low high => faithful t low (by push_cast; omega)
      push_cast
      cases here : value (n + 1) with
      | none =>
          rw [latestBefore_succ_of_none value _ here, ← earlier]
          by_cases member : (n : Int) + 1 ∈ points
          · simp [sampledAt_succ_of_mem value points sorted n member, here]
          · rw [sampledAt_succ_of_not_mem value points sorted n member]
      | some w =>
          have now := faithful (n + 1) (by omega) (by push_cast; omega) w here
          rw [latestBefore_succ_of_some value _ (by omega) here, now]
          simp

/-- The runs reproduce the value on `[0, limit)` exactly when every point that is neither sampled
nor a repetition of the point before it carries the latest value before it. -/
theorem coalesce_faithful_iff [DecidableEq β] (limit : Int) (missed : Int → Prop)
    (quiet : ∀ t, 0 < t → t < limit → t ∉ points → ¬missed t → value t = value (t - 1)) :
    (∀ t, 0 ≤ t → t < limit → ∀ v, value t = some v → heldAt (coalesce value points) t = some v) ↔
      ∀ t, 0 < t → t < limit → t ∉ points → missed t → ∀ v, value t = some v →
        LatestBefore value t v := by
  simp only [heldAt_coalesce value points sorted]
  constructor
  · intro faithful t positive below missing _ v here
    obtain ⟨n, rfl⟩ : ∃ n : Nat, t = n + 1 := ⟨(t - 1).toNat, by omega⟩
    rw [← sampledAt_eq_latest value points sorted zero nonneg n
      (fun s low high => faithful s low (by omega)), ← sampledAt_succ_of_not_mem value points sorted n missing]
    exact faithful (n + 1) (by omega) below v here
  · intro latest t low below
    obtain ⟨n, rfl⟩ := Int.eq_ofNat_of_zero_le low
    clear low
    induction n using Nat.strong_induction_on with
    | _ n ih =>
        intro v here
        cases n with
        | zero => simpa [sampledAt_zero value points sorted zero nonneg] using here
        | succ n =>
            push_cast at here below ⊢
            by_cases member : (n : Int) + 1 ∈ points
            · simp [sampledAt_succ_of_mem value points sorted n member, here]
            · rw [sampledAt_succ_of_not_mem value points sorted n member]
              by_cases miss : missed (n + 1)
              · refine (sampledAt_eq_latest value points sorted zero nonneg n ?_ v).mpr
                  (latest _ (by omega) below member miss v here)
                intro s low high
                obtain ⟨m, rfl⟩ := Int.eq_ofNat_of_zero_le low
                exact ih m (by omega) (by omega)
              · have same := quiet _ (by omega) below member miss
                simp only [add_sub_cancel_right] at same
                exact ih n (by omega) (by omega) v (same ▸ here)

theorem coalesce_faithful [DecidableEq β] (limit : Int)
    (quiet : ∀ t, 0 < t → t < limit → t ∉ points → value t = value (t - 1))
    (t : Int) (low : 0 ≤ t) (high : t < limit) {v : β} (here : value t = some v) :
    heldAt (coalesce value points) t = some v :=
  (coalesce_faithful_iff value points sorted zero nonneg limit (fun _ => False)
    (fun t low high missing _ => quiet t low high missing)).mpr
    (fun _ _ _ _ missed => missed.elim) t low high v here

end Faithful

end Ocpp.Library
