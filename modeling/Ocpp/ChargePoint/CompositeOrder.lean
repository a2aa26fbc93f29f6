import Ocpp.ChargePoint.CompositeFaithful

/-!
# The order of the candidates

When the composite schedule depends on the order in which its candidates are given. Each of the three
selections takes the last candidate with the greatest key, and their keys differ: the override compares rank,
scope and stack level, the output unit leaves out the scope, and the ceiling compares the stack level alone.
-/

namespace Ocpp.Composite
open Library V16j

def Greatest {α κ : Type*} [LE κ] (key : α → κ) (xs : List α) (x : α) : Prop :=
  x ∈ xs ∧ ∀ y ∈ xs, key y ≤ key x

namespace ScopedProfile

variable (c : ScopedProfile)

def unit : ChargingRateUnitType :=
  c.profile.chargingSchedule.chargingRateUnit

def rank : Option Nat :=
  overrideRank c.profile.chargingProfilePurpose

/-- What the winning override has the greatest of. -/
def precedence : Nat ×ₗ Bool ×ₗ Int :=
  toLex (c.rank.getD 0, toLex (c.specific, c.profile.stackLevel))

/-- What the override whose unit is reported has the greatest of. -/
def unitPrecedence : WithBot Nat ×ₗ Int :=
  toLex (c.rank, c.profile.stackLevel)

end ScopedProfile

def Distinct (candidates : List ScopedProfile) : Prop :=
  (candidates.map fun c => (c.profile.chargingProfilePurpose, c.specific, c.profile.stackLevel)).Nodup

def overrides (candidates : List ScopedProfile) : List ScopedProfile :=
  candidates.filter (·.rank.isSome)

def overridesAt (candidates : List ScopedProfile) (instant windowStart : DateTime) :
    List ((Nat ×ₗ Bool ×ₗ Int) × Contribution) :=
  candidates.filterMap fun c => c.rank.bind fun rank =>
    (profileLimitAt c.profile instant windowStart).map fun contrib =>
      (toLex (rank, toLex (c.specific, c.profile.stackLevel)), contrib)

def ceilingsAt (candidates : List ScopedProfile) (instant windowStart : DateTime) : List (Int × Contribution) :=
  (candidates.filter fun c => c.profile.chargingProfilePurpose = .chargePointMaxProfile).filterMap fun c =>
    (profileLimitAt c.profile instant windowStart).map fun contrib => (c.profile.stackLevel, contrib)

theorem overrideLimitAt_eq (candidates : List ScopedProfile) (instant windowStart : DateTime) :
    overrideLimitAt candidates instant windowStart =
      (maxByKey Prod.fst (overridesAt candidates instant windowStart)).map Prod.snd := rfl

theorem ceilingLimitAt_eq (candidates : List ScopedProfile) (instant windowStart : DateTime) :
    ceilingLimitAt candidates instant windowStart =
      (maxByKey Prod.fst (ceilingsAt candidates instant windowStart)).map Prod.snd := rfl

def Contribution.inUnit (contrib : Contribution) (unit : ChargingRateUnitType) : ℚ × Option Int :=
  (convert contrib.limit contrib.unit unit ((contrib.phases.filter (0 < ·)).getD 1), contrib.phases)

/-- The smaller of an override and a ceiling, with its phases. -/
def combine (unit : ChargingRateUnitType) (override ceiling : Option Contribution) : Option (ℚ × Option Int) :=
  [override, ceiling].reduceOption.foldl (tightest unit) none

theorem effectiveLimitAt_eq (candidates : List ScopedProfile) (instant windowStart : DateTime)
    (unit : ChargingRateUnitType) :
    effectiveLimitAt candidates instant windowStart unit =
      combine unit (overrideLimitAt candidates instant windowStart)
        (ceilingLimitAt candidates instant windowStart) := rfl

section Combine

variable (unit : ChargingRateUnitType)

theorem combine_ceiling (ceiling : Contribution) :
    combine unit none (some ceiling) = some (ceiling.inUnit unit) := rfl

theorem combine_both (override ceiling : Contribution) :
    combine unit (some override) (some ceiling) =
      if (override.inUnit unit).1 ≤ (ceiling.inUnit unit).1 then some (override.inUnit unit)
      else some (ceiling.inUnit unit) := rfl

theorem combine_eq_none (override ceiling : Option Contribution) :
    combine unit override ceiling = none ↔ override = none ∧ ceiling = none := by
  cases override with
  | none =>
      cases ceiling with
      | none => exact iff_of_true rfl ⟨rfl, rfl⟩
      | some ceiling => simp [combine_ceiling]
  | some override =>
      cases ceiling with
      | none => exact iff_of_false nofun nofun
      | some ceiling =>
          rw [combine_both]
          split_ifs <;> simp

theorem combine_eq_iff (override : Option Contribution) (x y : Contribution) :
    combine unit override (some x) = combine unit override (some y) ↔
      x.inUnit unit = y.inUnit unit ∨ ∃ o ∈ override,
        (o.inUnit unit).1 ≤ (x.inUnit unit).1 ∧ (o.inUnit unit).1 ≤ (y.inUnit unit).1 := by
  cases override with
  | none => simp [combine_ceiling]
  | some o =>
      rw [combine_both, combine_both]
      by_cases left : (o.inUnit unit).1 ≤ (x.inUnit unit).1 <;>
        by_cases right : (o.inUnit unit).1 ≤ (y.inUnit unit).1
      · simp [left, right]
      · have differ : o.inUnit unit ≠ y.inUnit unit := fun same => right (same ▸ le_rfl)
        have apart : x.inUnit unit ≠ y.inUnit unit := fun same => right (same ▸ left)
        simp [left, right, differ, apart]
      · have differ : x.inUnit unit ≠ o.inUnit unit := fun same => left (same ▸ le_rfl)
        have apart : x.inUnit unit ≠ y.inUnit unit := fun same => left (same ▸ right)
        simp [left, right, differ, apart]
      · simp [left, right]

end Combine

/-! ## When the order does not matter -/

section Settled

variable (candidates : List ScopedProfile) (start : DateTime) (durationSecs : Int)
  (requestedUnit : Option ChargingRateUnitType)

def Unconstrained : Prop :=
  ∀ t ∈ boundaryOffsets candidates start durationSecs, ∀ c ∈ candidates,
    profileLimitAt c.profile (start.addSeconds t) start = none

/-- The unit to report in: the requested one, that of the winning override, or without an override that of a
candidate. -/
def Reporting (unit : ChargingRateUnitType) : Prop :=
  match requestedUnit with
  | some requested => unit = requested
  | none =>
      (∃ winner, Greatest ScopedProfile.precedence (overrides candidates) winner ∧ unit = winner.unit) ∨
        overrides candidates = [] ∧ ∃ c ∈ candidates, unit = c.unit

/-- The overrides with the greatest rank and stack level have the unit of the winning override; without an
override all candidates have one unit. -/
def UnitSettled : Prop :=
  requestedUnit = none →
    (∀ winner top, Greatest ScopedProfile.precedence (overrides candidates) winner →
      Greatest ScopedProfile.unitPrecedence (overrides candidates) top → top.unit = winner.unit) ∧
    (overrides candidates = [] → ∀ c ∈ candidates, ∀ d ∈ candidates, c.unit = d.unit)

/-- At a boundary of the window the applicable ceilings with the greatest stack level are one limit, or the
winning override is at or below each. -/
def CeilingSettled : Prop :=
  ∀ t ∈ boundaryOffsets candidates start durationSecs, ∀ unit x y,
    Reporting candidates requestedUnit unit →
    Greatest Prod.fst (ceilingsAt candidates (start.addSeconds t) start) x →
    Greatest Prod.fst (ceilingsAt candidates (start.addSeconds t) start) y →
      x.2.inUnit unit = y.2.inUnit unit ∨
        ∃ o, Greatest Prod.fst (overridesAt candidates (start.addSeconds t) start) o ∧
          (o.2.inUnit unit).1 ≤ (x.2.inUnit unit).1 ∧ (o.2.inUnit unit).1 ≤ (y.2.inUnit unit).1

def Settled : Prop :=
  durationSecs ≤ 0 ∨ Unconstrained candidates start durationSecs ∨
    UnitSettled candidates requestedUnit ∧ CeilingSettled candidates start durationSecs requestedUnit

/-- No order of the candidates changes the composite, and it is in the unit of the winning override. -/
def OrderIndependent : Prop :=
  (∀ permuted, permuted.Perm candidates →
    computeComposite permuted start durationSecs requestedUnit =
      computeComposite candidates start durationSecs requestedUnit) ∧
  (requestedUnit = none → ∀ winner, Greatest ScopedProfile.precedence (overrides candidates) winner →
    ∀ schedule, computeComposite candidates start durationSecs requestedUnit = some schedule →
      schedule.chargingRateUnit = winner.unit)

end Settled

/-! ## The three selections under a permutation -/

theorem greatest_of_maxByKey {α κ : Type*} [LinearOrder κ] {key : α → κ} {xs ys : List α} (same : xs.Perm ys)
    {x : α} (found : maxByKey key xs = some x) : Greatest key ys x := by
  obtain ⟨member, greatest⟩ := maxByKey_greatest key found
  exact ⟨same.mem_iff.mp member, fun y among => greatest y (same.mem_iff.mpr among)⟩

theorem exists_greatest {α κ : Type*} [LinearOrder κ] (key : α → κ) {xs : List α} (inhabited : xs ≠ []) :
    ∃ x, Greatest key xs x := by
  cases found : maxByKey key xs with
  | none => exact absurd ((maxByKey_eq_none key).mp found) inhabited
  | some x => exact ⟨x, greatest_of_maxByKey (List.Perm.refl xs) found⟩

section Selections

variable {permuted candidates : List ScopedProfile} (same : permuted.Perm candidates) (instant start : DateTime)

theorem overrideRank_injective {p q : ChargingProfilePurposeType} {rank : Nat}
    (left : overrideRank p = some rank) (right : overrideRank q = some rank) : p = q := by
  rw [← right] at left
  cases p <;> cases q <;> first | rfl | simp [overrideRank] at left

theorem mem_overridesAt {x : (Nat ×ₗ Bool ×ₗ Int) × Contribution} :
    x ∈ overridesAt candidates instant start ↔
      ∃ c ∈ candidates, ∃ rank, c.rank = some rank ∧
        profileLimitAt c.profile instant start = some x.2 ∧
          x.1 = toLex (rank, toLex (c.specific, c.profile.stackLevel)) := by
  simp only [overridesAt, List.mem_filterMap, Option.bind_eq_some_iff, Option.map_eq_some_iff]
  constructor
  · rintro ⟨c, member, rank, ranked, contrib, limited, rfl⟩
    exact ⟨c, member, rank, ranked, limited, rfl⟩
  · rintro ⟨c, member, rank, ranked, limited, key⟩
    exact ⟨c, member, rank, ranked, x.2, limited, by rw [← key]⟩

theorem overridesAt_distinct (distinct : Distinct candidates) :
    ∀ x ∈ overridesAt candidates instant start, ∀ y ∈ overridesAt candidates instant start,
      x.1 = y.1 → x = y := by
  intro x left y right key
  obtain ⟨c, among, rank, ranked, limit, xKey⟩ := (mem_overridesAt instant start).mp left
  obtain ⟨d, among', rank', ranked', limit', yKey⟩ := (mem_overridesAt instant start).mp right
  rw [xKey, yKey] at key
  simp only [EmbeddingLike.apply_eq_iff_eq, Prod.mk.injEq] at key
  obtain ⟨rfl, specific, stack⟩ := key
  have purpose := overrideRank_injective ranked ranked'
  have one : c = d := List.inj_on_of_nodup_map distinct among among' (by rw [purpose, specific, stack])
  subst one
  rw [limit] at limit'
  exact Prod.ext (xKey.trans yKey.symm) (Option.some.inj limit')

include same in
theorem overrideLimitAt_perm (distinct : Distinct candidates) :
    overrideLimitAt permuted instant start = overrideLimitAt candidates instant start := by
  have shuffled : (overridesAt candidates instant start).Perm (overridesAt permuted instant start) :=
    (same.filterMap _).symm
  rw [overrideLimitAt_eq, overrideLimitAt_eq,
    maxByKey_eq_of_perm Prod.fst shuffled (overridesAt_distinct instant start distinct)]

theorem mem_overrideLimitAt (distinct : Distinct candidates) {o : Contribution} :
    o ∈ overrideLimitAt candidates instant start ↔
      ∃ x, Greatest Prod.fst (overridesAt candidates instant start) x ∧ x.2 = o := by
  rw [overrideLimitAt_eq, Option.mem_map]
  constructor
  · rintro ⟨x, found, rfl⟩
    exact ⟨x, greatest_of_maxByKey (List.Perm.refl _) found, rfl⟩
  · rintro ⟨x, ⟨member, greatest⟩, rfl⟩
    cases found : maxByKey Prod.fst (overridesAt candidates instant start) with
    | none =>
        rw [(maxByKey_eq_none _).mp found] at member
        cases member
    | some y =>
        obtain ⟨among, above⟩ := maxByKey_greatest Prod.fst found
        have key := le_antisymm (above x member) (greatest y among)
        exact ⟨x, congrArg some (overridesAt_distinct instant start distinct y among x member key.symm), rfl⟩

include same in
theorem ceilingLimitAt_greatest {ceiling : Contribution}
    (found : ceilingLimitAt permuted instant start = some ceiling) :
    ∃ x, Greatest Prod.fst (ceilingsAt candidates instant start) x ∧ x.2 = ceiling := by
  rw [ceilingLimitAt_eq, Option.map_eq_some_iff] at found
  obtain ⟨x, found, rfl⟩ := found
  have shuffled : (ceilingsAt permuted instant start).Perm (ceilingsAt candidates instant start) :=
    (same.filter _).filterMap _
  exact ⟨x, greatest_of_maxByKey shuffled found, rfl⟩

include same in
theorem ceilingLimitAt_none_perm :
    ceilingLimitAt permuted instant start = none ↔ ceilingLimitAt candidates instant start = none := by
  have shuffled : (ceilingsAt permuted instant start).Perm (ceilingsAt candidates instant start) :=
    (same.filter _).filterMap _
  simp only [ceilingLimitAt_eq, Option.map_eq_none_iff, maxByKey_eq_none, ← List.length_eq_zero_iff,
    shuffled.length_eq]

/-- Any of the ceilings with the greatest stack level wins in some order. -/
theorem exists_perm_ceilingLimitAt {x : Int × Contribution}
    (greatest : Greatest Prod.fst (ceilingsAt candidates instant start) x) :
    ∃ permuted, List.Perm permuted candidates ∧ ceilingLimitAt permuted instant start = some x.2 := by
  obtain ⟨member, above⟩ := greatest
  obtain ⟨c, ceiling, limited⟩ := List.mem_filterMap.mp member
  obtain ⟨among, purpose⟩ := List.mem_filter.mp ceiling
  have shuffled : (candidates.erase c ++ [c]).Perm candidates :=
    (List.perm_append_singleton c _).trans (List.perm_cons_erase among).symm
  refine ⟨candidates.erase c ++ [c], shuffled, ?_⟩
  have last : ceilingsAt (candidates.erase c ++ [c]) instant start =
      ceilingsAt (candidates.erase c) instant start ++ [x] := by
    simp only [ceilingsAt, List.filter_append, List.filterMap_append, List.filter_singleton, purpose]
    simp [limited]
  rw [ceilingLimitAt_eq, last, maxByKey_last]
  · rfl
  · intro y early
    have sub : ceilingsAt (candidates.erase c) instant start ⊆ ceilingsAt candidates instant start :=
      ((List.erase_sublist.filter _).filterMap _).subset
    exact above y (sub early)

include same in
theorem boundaryOffsets_perm (durationSecs : Int) :
    boundaryOffsets permuted start durationSecs = boundaryOffsets candidates start durationSecs := by
  apply sortDedup_congr
  intro t
  simp only [List.mem_cons, List.mem_flatMap, same.mem_iff]

theorem effectiveLimitAt_eq_none (unit : ChargingRateUnitType) :
    effectiveLimitAt candidates instant start unit = none ↔
      ∀ c ∈ candidates, profileLimitAt c.profile instant start = none := by
  have override : overrideLimitAt candidates instant start = none ↔
      ∀ c ∈ candidates, c.rank = none ∨ profileLimitAt c.profile instant start = none := by
    rw [overrideLimitAt_eq, Option.map_eq_none_iff, maxByKey_eq_none, overridesAt, List.filterMap_eq_nil_iff]
    apply forall₂_congr
    intro c member
    cases c.rank <;> simp
  have ceiling : ceilingLimitAt candidates instant start = none ↔
      ∀ c ∈ candidates, c.profile.chargingProfilePurpose = .chargePointMaxProfile →
        profileLimitAt c.profile instant start = none := by
    rw [ceilingLimitAt_eq, Option.map_eq_none_iff, maxByKey_eq_none, ceilingsAt, List.filterMap_eq_nil_iff]
    simp
  rw [effectiveLimitAt_eq, combine_eq_none, override, ceiling]
  constructor
  · rintro ⟨override, ceiling⟩ c member
    rcases override c member with unranked | unlimited
    · apply ceiling c member
      cases purpose : c.profile.chargingProfilePurpose <;>
        simp [ScopedProfile.rank, overrideRank, purpose] at unranked ⊢
    · exact unlimited
  · intro unlimited
    exact ⟨fun c member => Or.inr (unlimited c member), fun c member _ => unlimited c member⟩

end Selections

/-! ## The unit of the composite -/

section Unit

variable {permuted candidates : List ScopedProfile} (same : permuted.Perm candidates)
  {requestedUnit : Option ChargingRateUnitType}

theorem outputUnit_unrequested :
    outputUnit candidates none = ((maxByKey ScopedProfile.unitPrecedence (overrides candidates)).or
      candidates.head?).elim .A ScopedProfile.unit := rfl

theorem unit_unique (settled : UnitSettled candidates requestedUnit) {left right : ChargingRateUnitType}
    (first : Reporting candidates requestedUnit left) (second : Reporting candidates requestedUnit right) :
    left = right := by
  cases requestedUnit with
  | some requested => exact Eq.trans first (Eq.symm second)
  | none =>
      obtain ⟨winner, unranked⟩ := settled rfl
      rcases first with ⟨c, wins, rfl⟩ | ⟨empty, c, member, rfl⟩
      · obtain ⟨top, greatest⟩ := exists_greatest ScopedProfile.unitPrecedence (List.ne_nil_of_mem wins.1)
        rcases second with ⟨d, wins', rfl⟩ | ⟨empty, -⟩
        · rw [← winner c top wins greatest, ← winner d top wins' greatest]
        · exact absurd empty (List.ne_nil_of_mem wins.1)
      · rcases second with ⟨d, wins', rfl⟩ | ⟨-, d, member', rfl⟩
        · exact absurd empty (List.ne_nil_of_mem wins'.1)
        · exact unranked empty c member d member'

include same in
theorem outputUnit_reporting (settled : UnitSettled candidates requestedUnit) (inhabited : candidates ≠ []) :
    Reporting candidates requestedUnit (outputUnit permuted requestedUnit) := by
  cases requestedUnit with
  | some requested => rfl
  | none =>
      rw [outputUnit_unrequested]
      have shuffled : (overrides permuted).Perm (overrides candidates) := same.filter _
      cases found : maxByKey ScopedProfile.unitPrecedence (overrides permuted) with
      | some top =>
          have greatest := greatest_of_maxByKey shuffled found
          obtain ⟨winner, wins⟩ := exists_greatest ScopedProfile.precedence (List.ne_nil_of_mem greatest.1)
          exact Or.inl ⟨winner, wins, (settled rfl).1 winner top wins greatest⟩
      | none =>
          have empty := (maxByKey_eq_none _).mp found
          rw [empty] at shuffled
          cases permuted with
          | nil => exact absurd same.nil_eq.symm inhabited
          | cons c rest => exact Or.inr ⟨shuffled.nil_eq.symm, c, same.mem_iff.mp List.mem_cons_self, rfl⟩

theorem exists_perm_outputUnit {top : ScopedProfile}
    (greatest : Greatest ScopedProfile.unitPrecedence (overrides candidates) top) :
    ∃ permuted, List.Perm permuted candidates ∧ outputUnit permuted none = top.unit := by
  obtain ⟨member, above⟩ := greatest
  obtain ⟨among, ranked⟩ := List.mem_filter.mp member
  have shuffled : (candidates.erase top ++ [top]).Perm candidates :=
    (List.perm_append_singleton top _).trans (List.perm_cons_erase among).symm
  refine ⟨candidates.erase top ++ [top], shuffled, ?_⟩
  have last : overrides (candidates.erase top ++ [top]) = overrides (candidates.erase top) ++ [top] := by
    simp only [overrides, List.filter_append, List.filter_singleton, ranked, cond_true]
  rw [outputUnit_unrequested, last, maxByKey_last]
  · rfl
  · intro c early
    exact above c ((List.erase_sublist.filter _).subset early)

theorem exists_perm_outputUnit_ceiling (empty : overrides candidates = []) {c : ScopedProfile}
    (member : c ∈ candidates) :
    ∃ permuted, List.Perm permuted candidates ∧ outputUnit permuted none = c.unit := by
  have shuffled : (c :: candidates.erase c).Perm candidates := (List.perm_cons_erase member).symm
  have none : overrides (c :: candidates.erase c) = [] := by
    have kept : (overrides (c :: candidates.erase c)).Perm (overrides candidates) := shuffled.filter _
    rw [empty] at kept
    exact kept.eq_nil
  refine ⟨c :: candidates.erase c, shuffled, ?_⟩
  rw [outputUnit_unrequested, none]
  rfl

end Unit

/-! ## The composite -/

section Composite

variable {permuted candidates : List ScopedProfile} (same : permuted.Perm candidates) {start : DateTime}
  {durationSecs : Int} {requestedUnit : Option ChargingRateUnitType}

theorem compositeRuns_eq_nil :
    compositeRuns candidates start durationSecs requestedUnit = [] ↔
      Unconstrained candidates start durationSecs := by
  rw [compositeRuns, coalesce_eq_nil]
  apply forall₂_congr
  intro t boundary
  exact effectiveLimitAt_eq_none _ _ _

theorem computeComposite_some (positive : 0 < durationSecs)
    (constrained : ¬Unconstrained candidates start durationSecs) :
    computeComposite candidates start durationSecs requestedUnit = some
      { duration := some durationSecs
        startSchedule := some start
        chargingRateUnit := outputUnit candidates requestedUnit
        chargingSchedulePeriod := (compositeRuns candidates start durationSecs requestedUnit).map
          fun e => ⟨e.1, e.2.1, e.2.2⟩
        minChargingRate := none } := by
  have runs : compositeRuns candidates start durationSecs requestedUnit ≠ [] :=
    fun empty => constrained (compositeRuns_eq_nil.mp empty)
  rw [computeComposite, if_neg (not_le.mpr positive)]
  apply if_neg
  rw [List.isEmpty_iff, List.map_eq_nil_iff]
  exact runs

theorem computeComposite_none (closed : durationSecs ≤ 0 ∨ Unconstrained candidates start durationSecs) :
    computeComposite candidates start durationSecs requestedUnit = none := by
  rcases le_or_gt durationSecs 0 with empty | positive
  · exact if_pos empty
  · exact (computeComposite_eq_none positive).mpr
      (compositeRuns_eq_nil.mpr (closed.resolve_left (not_le.mpr positive)))

include same

theorem unconstrained_perm :
    Unconstrained permuted start durationSecs ↔ Unconstrained candidates start durationSecs := by
  simp only [Unconstrained, boundaryOffsets_perm same start, same.mem_iff]

theorem computeComposite_perm_iff (positive : 0 < durationSecs)
    (constrained : ¬Unconstrained candidates start durationSecs) :
    computeComposite permuted start durationSecs requestedUnit =
        computeComposite candidates start durationSecs requestedUnit ↔
      outputUnit permuted requestedUnit = outputUnit candidates requestedUnit ∧
        ∀ t ∈ boundaryOffsets candidates start durationSecs,
          limitAt permuted start requestedUnit t = limitAt candidates start requestedUnit t := by
  rw [computeComposite_some positive constrained,
    computeComposite_some positive (mt (unconstrained_perm same).mp constrained)]
  have recorded : Function.Injective fun e : Int × ℚ × Option Int => ChargingSchedulePeriod.mk e.1 e.2.1 e.2.2 := by
    rintro ⟨t, l, p⟩ ⟨t', l', p'⟩ equal
    simpa using equal
  simp only [Option.some.injEq, ChargingSchedule.mk.injEq, true_and, and_true,
    List.map_inj_right recorded, compositeRuns, boundaryOffsets_perm same start]
  apply and_congr_right
  intro unit
  constructor
  · intro runs
    apply coalesceFrom_injective (sortDedup_sorted _) _ runs
    intro t boundary
    -- a limit is missing where no candidate applies, in any order
    have missing : limitAt permuted start requestedUnit t = none ↔
        limitAt candidates start requestedUnit t = none := by
      simp only [limitAt, effectiveLimitAt_eq_none, same.mem_iff]
    rw [Bool.eq_iff_iff, ← Option.ne_none_iff_isSome, ← Option.ne_none_iff_isSome]
    exact not_congr missing
  · intro limits
    exact coalesceFrom_congr limits none

theorem outputUnit_perm (settled : UnitSettled candidates requestedUnit) :
    outputUnit permuted requestedUnit = outputUnit candidates requestedUnit := by
  cases candidates with
  | nil => rw [same.eq_nil]
  | cons c rest =>
      exact unit_unique settled (outputUnit_reporting same settled (List.cons_ne_nil c rest))
        (outputUnit_reporting (List.Perm.refl _) settled (List.cons_ne_nil c rest))

theorem limitAt_perm (distinct : Distinct candidates) (settled : UnitSettled candidates requestedUnit)
    (ceilings : CeilingSettled candidates start durationSecs requestedUnit) {t : Int}
    (boundary : t ∈ boundaryOffsets candidates start durationSecs) :
    limitAt permuted start requestedUnit t = limitAt candidates start requestedUnit t := by
  simp only [limitAt, effectiveLimitAt_eq, outputUnit_perm same settled, overrideLimitAt_perm same _ _ distinct]
  cases left : ceilingLimitAt permuted (start.addSeconds t) start with
  | none => rw [(ceilingLimitAt_none_perm same _ _).mp left]
  | some x =>
      cases right : ceilingLimitAt candidates (start.addSeconds t) start with
      | none =>
          rw [(ceilingLimitAt_none_perm same _ _).mpr right] at left
          cases left
      | some y =>
          obtain ⟨x, first, rfl⟩ := ceilingLimitAt_greatest same _ _ left
          obtain ⟨y, second, rfl⟩ := ceilingLimitAt_greatest (List.Perm.refl _) _ _ right
          obtain ⟨c, ceiling, -⟩ := List.mem_filterMap.mp first.1
          have inhabited := List.ne_nil_of_mem (List.mem_of_mem_filter ceiling)
          have unit := outputUnit_reporting (List.Perm.refl _) settled inhabited
          apply (combine_eq_iff _ _ _ _).mpr
          rcases ceilings t boundary _ x y unit first second with equal | ⟨o, override, below⟩
          · exact Or.inl equal
          · exact Or.inr ⟨o.2, (mem_overrideLimitAt _ _ distinct).mpr ⟨o, override, rfl⟩, below⟩

end Composite

/-! ## Exactly when -/

section OrderIndependent

variable {candidates : List ScopedProfile} {start : DateTime} {durationSecs : Int}
  {requestedUnit : Option ChargingRateUnitType}

theorem orderIndependent_of_settled (distinct : Distinct candidates)
    (settled : Settled candidates start durationSecs requestedUnit) :
    OrderIndependent candidates start durationSecs requestedUnit := by
  by_cases closed : durationSecs ≤ 0 ∨ Unconstrained candidates start durationSecs
  · have unreported : computeComposite candidates start durationSecs requestedUnit = none :=
      computeComposite_none closed
    constructor
    · intro permuted same
      rw [unreported]
      exact computeComposite_none (closed.imp_right (unconstrained_perm same).mpr)
    · intro _ winner _ schedule computed
      rw [unreported] at computed
      cases computed
  · obtain ⟨opened, constrained⟩ := not_or.mp closed
    have positive := not_le.mp opened
    obtain ⟨unit, ceilings⟩ := (settled.resolve_left opened).resolve_left constrained
    constructor
    · intro permuted same
      apply (computeComposite_perm_iff same positive constrained).mpr
      exact ⟨outputUnit_perm same unit, fun t boundary => limitAt_perm same distinct unit ceilings boundary⟩
    · rintro rfl winner wins schedule computed
      rw [computeComposite_some positive constrained] at computed
      cases computed
      have inhabited := List.ne_nil_of_mem (List.mem_of_mem_filter wins.1)
      exact unit_unique unit (outputUnit_reporting (List.Perm.refl _) unit inhabited)
        (Or.inl ⟨winner, wins, rfl⟩)

section Necessary

variable (positive : 0 < durationSecs) (constrained : ¬Unconstrained candidates start durationSecs)
  (independent : OrderIndependent candidates start durationSecs requestedUnit)
include positive constrained independent

theorem unitSettled_of_orderIndependent : UnitSettled candidates requestedUnit := by
  rintro rfl
  have unit : ∀ permuted, List.Perm permuted candidates → outputUnit permuted none = outputUnit candidates none :=
    fun permuted same =>
      ((computeComposite_perm_iff same positive constrained).mp (independent.1 permuted same)).1
  constructor
  · intro winner top wins greatest
    obtain ⟨permuted, same, last⟩ := exists_perm_outputUnit greatest
    have reported := independent.2 rfl winner wins _ (computeComposite_some positive constrained)
    rw [← last, unit permuted same]
    exact reported
  · intro empty c member d member'
    obtain ⟨permuted, same, first⟩ := exists_perm_outputUnit_ceiling empty member
    obtain ⟨permuted', same', first'⟩ := exists_perm_outputUnit_ceiling empty member'
    rw [← first, ← first', unit permuted same, unit permuted' same']

theorem ceilingSettled_of_orderIndependent (distinct : Distinct candidates) :
    CeilingSettled candidates start durationSecs requestedUnit := by
  have settled := unitSettled_of_orderIndependent positive constrained independent
  intro t boundary unit x y reporting first second
  -- each of the two ceilings wins in an order of its own, and both orders give the limit at `t`
  have limit : ∀ z, Greatest Prod.fst (ceilingsAt candidates (start.addSeconds t) start) z →
      combine (outputUnit candidates requestedUnit) (overrideLimitAt candidates (start.addSeconds t) start)
        (some z.2) = limitAt candidates start requestedUnit t := by
    intro z greatest
    obtain ⟨permuted, same, wins⟩ := exists_perm_ceilingLimitAt _ _ greatest
    have limits := ((computeComposite_perm_iff same positive constrained).mp (independent.1 permuted same)).2
    rw [← limits t boundary, limitAt, effectiveLimitAt_eq, wins, outputUnit_perm same settled,
      overrideLimitAt_perm same _ _ distinct]
  obtain ⟨c, ceiling, -⟩ := List.mem_filterMap.mp first.1
  have inhabited := List.ne_nil_of_mem (List.mem_of_mem_filter ceiling)
  rw [unit_unique settled reporting (outputUnit_reporting (List.Perm.refl _) settled inhabited)]
  have equal := (limit x first).trans (limit y second).symm
  rcases (combine_eq_iff _ _ _ _).mp equal with same | ⟨o, override, below⟩
  · exact Or.inl same
  · obtain ⟨o, wins, rfl⟩ := (mem_overrideLimitAt _ _ distinct).mp override
    exact Or.inr ⟨o, wins, below⟩

end Necessary

end OrderIndependent

/-- Among candidates that differ in purpose, scope or stack level, the composite does not depend on their order
and is in the unit of the winning override exactly when the looser keys of the other two selections tie
nothing that matters. -/
theorem computeComposite_order_iff (candidates : List ScopedProfile) (distinct : Distinct candidates)
    (start : DateTime) (durationSecs : Int) (requestedUnit : Option ChargingRateUnitType) :
    OrderIndependent candidates start durationSecs requestedUnit ↔
      Settled candidates start durationSecs requestedUnit := by
  constructor
  · intro independent
    rcases le_or_gt durationSecs 0 with empty | positive
    · exact Or.inl empty
    by_cases constrained : Unconstrained candidates start durationSecs
    · exact Or.inr (Or.inl constrained)
    · exact Or.inr (Or.inr ⟨unitSettled_of_orderIndependent positive constrained independent,
        ceilingSettled_of_orderIndependent positive constrained independent distinct⟩)
  · exact orderIndependent_of_settled distinct

def defaultProfile (stackLevel : Int) (unit : ChargingRateUnitType) (limit : ℚ) : ChargingProfile :=
  { chargingProfileId := stackLevel, transactionId := none, stackLevel
    chargingProfilePurpose := .txDefaultProfile, chargingProfileKind := .relative, recurrencyKind := none
    validFrom := none, validTo := none
    chargingSchedule :=
      { duration := none, startSchedule := none, chargingRateUnit := unit
        chargingSchedulePeriod := [⟨0, limit, none⟩], minChargingRate := none } }

/-- A default profile of the connector and one of the whole charge point. -/
def mixedUnits : List ScopedProfile :=
  [⟨true, defaultProfile 1 .A 16⟩, ⟨false, defaultProfile 5 .W 11000⟩]

theorem mixedUnits_asked_in_watts : OrderIndependent mixedUnits ⟨0⟩ 60 (some .W) := by
  apply (computeComposite_order_iff mixedUnits (by unfold Distinct; decide) ⟨0⟩ 60 (some .W)).mpr
  refine Or.inr (Or.inr ⟨?_, ?_⟩)
  · intro unrequested
    cases unrequested
  · intro t boundary unit x y reporting first second
    have empty : ceilingsAt mixedUnits ((⟨0⟩ : DateTime).addSeconds t) ⟨0⟩ = [] := rfl
    rw [empty] at first
    cases first.1

/-- The connector's own profile wins and is in amperes, but the schedule is in watts: the other one has the
greater stack level. -/
theorem mixedUnits_reported_in_watts :
    Distinct mixedUnits ∧ ¬OrderIndependent mixedUnits ⟨0⟩ 60 none := by
  refine ⟨by unfold Distinct; decide, ?_⟩
  rintro ⟨-, reported⟩
  have computed : computeComposite mixedUnits ⟨0⟩ 60 none =
      some ⟨some 60, some ⟨0⟩, .W, [⟨0, 3680, none⟩], none⟩ := by decide +kernel
  have wins : Greatest ScopedProfile.precedence (overrides mixedUnits) ⟨true, defaultProfile 1 .A 16⟩ := by
    unfold Greatest
    decide +kernel
  exact absurd (reported rfl _ wins _ computed) (by decide)

end Ocpp.Composite
