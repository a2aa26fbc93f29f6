import Mathlib.Tactic.FieldSimp
import Mathlib.Tactic.Positivity
import Ocpp.ChargePoint.V201CompositeFaithful

/-!
# Reported and enforced 2.0.1 limits

The composite schedule takes its minimum in the reported unit, each profile converted with its own
phase count, and states the phase count of the base beside it; the metering path takes the minimum
in watts. Read back in watts, the reported limit is the minimum of the limits rescaled from their own
phase count to the base's, so the two agree exactly when that rescaling keeps the minimum.
-/

namespace Ocpp.V201ChargingProfiles
open Library V201

/-- The reported limit `t` seconds into the window, converted back to watts with the phase count of
the reported period, is the bound of the metering path. -/
def ReportAgrees (text : Rfc3339) (profile : ChargingProfileType)
    (ceilings : List ChargingProfileType) (windowStart : DateTime)
    (requestedUnit : Option ChargingRateUnitEnumType) (naturalPowerW nominalVoltageV : ℚ)
    (t : Int) : Prop :=
  let outUnit := reportedUnit profile requestedUnit
  ∀ limit phases,
    cappedContributionAt text profile ceilings windowStart outUnit nominalVoltageV t =
      some (limit, phases) →
    let reportedW := convertRate limit outUnit .W (effectivePhases ⟨t, limit, phases, none⟩)
      nominalVoltageV
    boundedPowerWCapped text (some profile) ceilings t windowStart naturalPowerW nominalVoltageV =
      if reportedW < naturalPowerW then some reportedW else none

def termsInForce (text : Rfc3339) (profiles : List ChargingProfileType) (elapsedS : Int)
    (txStart : DateTime) (nominalVoltageV : ℚ) : List (ℚ × Int) :=
  profiles.filterMap fun profile =>
    (resolveActive text profile elapsedS txStart).map fun (schedule, period) =>
      (convertRate (flooredLimit schedule period) schedule.chargingRateUnit .W
        (effectivePhases period) nominalVoltageV, effectivePhases period)

def rescaledW (phases : Int) (term : ℚ × Int) : ℚ :=
  term.1 * phases / term.2

def apparentW (outUnit : ChargingRateUnitEnumType) (phases : Int) (term : ℚ × Int) : ℚ :=
  match outUnit with
  | .W => term.1
  | .A => rescaledW phases term

/-- Below the natural power, the limits in force and the same limits rescaled to `phases` phases
bound each other. -/
def RescalingKeepsMinimum (terms : List (ℚ × Int)) (phases : Int) (naturalPowerW : ℚ) : Prop :=
  (∀ s ∈ terms, naturalPowerW ≤ rescaledW phases s ∨ ∃ w ∈ terms, w.1 ≤ rescaledW phases s) ∧
  ∀ w ∈ terms, naturalPowerW ≤ w.1 ∨ ∃ s ∈ terms, rescaledW phases s ≤ w.1

section

variable {text : Rfc3339}

theorem effectivePhases_pos (period : ChargingSchedulePeriodType) : 0 < effectivePhases period := by
  simp [effectivePhases]

theorem activeLimitW_eq (profile : ChargingProfileType) (elapsedS : Int) (txStart : DateTime)
    (nominalVoltageV : ℚ) :
    activeLimitW text profile elapsedS txStart nominalVoltageV =
      ((resolveActive text profile elapsedS txStart).map fun (schedule, period) =>
        (convertRate (flooredLimit schedule period) schedule.chargingRateUnit .W
          (effectivePhases period) nominalVoltageV, effectivePhases period)).map Prod.fst := by
  rw [activeLimitW, Option.map_map]
  congr 1
  funext ⟨schedule, period⟩
  cases unit : schedule.chargingRateUnit <;> simp [unit, convertRate]

theorem foldl_tightenW (elapsedS : Int) (txStart : DateTime) (nominalVoltageV : ℚ)
    (profiles : List ChargingProfileType) (limitW : ℚ) :
    profiles.foldl (tightenW text elapsedS txStart nominalVoltageV) limitW =
      ((termsInForce text profiles elapsedS txStart nominalVoltageV).map Prod.fst).foldl min
        limitW := by
  induction profiles generalizing limitW with
  | nil => rfl
  | cons profile rest ih =>
      rw [List.foldl_cons, ih, tightenW, activeLimitW_eq]
      cases active : resolveActive text profile elapsedS txStart with
      | none => simp [termsInForce, active]
      | some inForce => simp [termsInForce, active]

theorem boundedPowerWCapped_eq (profile : ChargingProfileType) (ceilings : List ChargingProfileType)
    (elapsedS : Int) (txStart : DateTime) (naturalPowerW nominalVoltageV : ℚ) :
    boundedPowerWCapped text (some profile) ceilings elapsedS txStart naturalPowerW nominalVoltageV =
      let limitW := ((termsInForce text (profile :: ceilings) elapsedS txStart nominalVoltageV).map
        Prod.fst).foldl min naturalPowerW
      if limitW < naturalPowerW then some limitW else none := by
  rw [← foldl_tightenW]
  rfl

section Converted

variable {nominalVoltageV : ℚ} (positive : 0 < nominalVoltageV)
include positive

theorem convertRate_back (limit : ℚ) (unit outUnit : ChargingRateUnitEnumType) {own phases : Int}
    (ownPositive : 0 < own) :
    convertRate (convertRate limit unit outUnit own nominalVoltageV) outUnit .W phases
        nominalVoltageV =
      apparentW outUnit phases (convertRate limit unit .W own nominalVoltageV, own) := by
  have ownNonzero : (own : ℚ) ≠ 0 := by exact_mod_cast ownPositive.ne'
  have nonzero : nominalVoltageV * own ≠ 0 := mul_ne_zero positive.ne' ownNonzero
  cases outUnit <;> cases unit <;> simp only [convertRate, apparentW, rescaledW, nonzero, if_false]
  all_goals field_simp

theorem convertRate_monotone (outUnit : ChargingRateUnitEnumType) {phases : Int}
    (phasesPositive : 0 < phases) :
    Monotone fun limit => convertRate limit outUnit .W phases nominalVoltageV := by
  have nonneg : (0 : ℚ) ≤ phases := by exact_mod_cast phasesPositive.le
  intro a b le
  cases outUnit with
  | W => exact le
  | A =>
      simp only [convertRate]
      exact mul_le_mul_of_nonneg_right (mul_le_mul_of_nonneg_right le positive.le) nonneg

theorem cappedContributionAt_back (profile : ChargingProfileType)
    (ceilings : List ChargingProfileType) (windowStart : DateTime)
    (outUnit : ChargingRateUnitEnumType) (t : Int)
    {schedule : ChargingScheduleType} {period : ChargingSchedulePeriodType}
    (inForce : resolveActive text profile t windowStart = some (schedule, period)) :
    ∃ limit, cappedContributionAt text profile ceilings windowStart outUnit nominalVoltageV t =
        some (limit, period.numberPhases) ∧
      ∀ naturalPowerW, min naturalPowerW (convertRate limit outUnit .W (effectivePhases period)
          nominalVoltageV) =
        ((termsInForce text (profile :: ceilings) t windowStart nominalVoltageV).map
          (apparentW outUnit (effectivePhases period))).foldl min naturalPowerW := by
  let back := fun limit => convertRate limit outUnit .W (effectivePhases period) nominalVoltageV
  have monotone : Monotone back :=
    convertRate_monotone positive outUnit (effectivePhases_pos period)
  have apparent : (termsInForce text ceilings t windowStart nominalVoltageV).map
        (apparentW outUnit (effectivePhases period)) =
      (ceilings.filterMap fun ceiling => (compositeContributionAt text ceiling t windowStart outUnit
        nominalVoltageV).map Prod.fst).map back := by
    simp only [termsInForce, compositeContributionAt, List.map_filterMap, Option.map_map]
    refine List.filterMap_congr fun ceiling _ => congrArg (Option.map · _) (funext fun inForce => ?_)
    exact (convertRate_back positive _ _ outUnit (effectivePhases_pos inForce.2)).symm
  refine ⟨_, by rw [cappedContributionAt, compositeContributionAt, inForce]; rfl, ?_⟩
  intro naturalPowerW
  have terms : termsInForce text (profile :: ceilings) t windowStart nominalVoltageV =
      (convertRate (flooredLimit schedule period) schedule.chargingRateUnit .W
        (effectivePhases period) nominalVoltageV, effectivePhases period) ::
        termsInForce text ceilings t windowStart nominalVoltageV := by
    simp [termsInForce, inForce]
  change min naturalPowerW (back _) = _
  rw [map_foldl_min monotone, terms, List.map_cons, List.foldl_cons, apparent,
    ← convertRate_back positive _ _ outUnit (effectivePhases_pos period), List.foldl_assoc]

end Converted

theorem reportAgrees_iff (profile : ChargingProfileType) (ceilings : List ChargingProfileType)
    (windowStart : DateTime) (requestedUnit : Option ChargingRateUnitEnumType)
    (naturalPowerW nominalVoltageV : ℚ) (positive : 0 < nominalVoltageV) (t : Int)
    (schedule : ChargingScheduleType) (period : ChargingSchedulePeriodType)
    (inForce : resolveActive text profile t windowStart = some (schedule, period)) :
    ReportAgrees text profile ceilings windowStart requestedUnit naturalPowerW nominalVoltageV t ↔
      reportedUnit profile requestedUnit = .W ∨
      RescalingKeepsMinimum (termsInForce text (profile :: ceilings) t windowStart nominalVoltageV)
        (effectivePhases period) naturalPowerW := by
  obtain ⟨limit, capped, back⟩ := cappedContributionAt_back positive profile ceilings windowStart
    (reportedUnit profile requestedUnit) t inForce
  have agrees : ReportAgrees text profile ceilings windowStart requestedUnit naturalPowerW
        nominalVoltageV t ↔
      ((termsInForce text (profile :: ceilings) t windowStart nominalVoltageV).map
          Prod.fst).foldl min naturalPowerW =
        ((termsInForce text (profile :: ceilings) t windowStart nominalVoltageV).map
          (apparentW (reportedUnit profile requestedUnit) (effectivePhases period))).foldl min
          naturalPowerW := by
    have natural : min naturalPowerW (((termsInForce text (profile :: ceilings) t windowStart
        nominalVoltageV).map Prod.fst).foldl min naturalPowerW) = _ :=
      min_eq_right ((foldl_min_le_iff _ _ _).mpr (Or.inl le_rfl))
    simp only [ReportAgrees, boundedPowerWCapped_eq, below_eq_iff, natural, ← back naturalPowerW]
    constructor
    · intro every
      exact every limit period.numberPhases capped
    · intro same limit' phases' capped'
      obtain ⟨rfl, rfl⟩ := Prod.mk.inj (Option.some.inj (capped.symm.trans capped'))
      exact same
  rw [agrees]
  cases unit : reportedUnit profile requestedUnit with
  | W =>
      have plain : apparentW .W (effectivePhases period) = Prod.fst := rfl
      simp [plain]
  | A =>
      simp only [foldl_min_eq_iff, apparentW, List.mem_map, forall_exists_index, and_imp,
        forall_apply_eq_imp_iff₂, exists_exists_and_eq_and, reduceCtorEq, false_or]
      rfl

end

theorem eveningProfile_report_agrees :
    ReportAgrees newYearText eveningProfile [nightCeiling] ⟨1767225600000000000⟩ none 11040 230
      5000 := by
  refine (reportAgrees_iff eveningProfile [nightCeiling] ⟨1767225600000000000⟩ none 11040 230
    (by decide) 5000 _ _ rfl).mpr (Or.inr ?_)
  unfold RescalingKeepsMinimum
  decide +kernel

def singlePhaseProfile : ChargingProfileType :=
  { id := 1, stackLevel := 0, chargingProfilePurpose := .txDefaultProfile
    chargingProfileKind := .absolute, recurrencyKind := none
    validFrom := none, validTo := none, transactionId := none
    chargingSchedule :=
      [{ id := 1, chargingRateUnit := .A, startSchedule := none, duration := none
         minChargingRate := none, chargingSchedulePeriod := [⟨0, 32, some 1, none⟩] }] }

def siteCeiling : ChargingProfileType :=
  { id := 2, stackLevel := 0, chargingProfilePurpose := .chargingStationMaxProfile
    chargingProfileKind := .absolute, recurrencyKind := none
    validFrom := none, validTo := none, transactionId := none
    chargingSchedule :=
      [{ id := 2, chargingRateUnit := .W, startSchedule := none, duration := none
         minChargingRate := none, chargingSchedulePeriod := [⟨0, 6000, none, none⟩] }] }

/-- The ceiling is reported as its current on three phases beside the base's single phase: 2000 W,
where the metering path allows 6000 W. -/
theorem singlePhaseProfile_report_disagrees :
    ¬ReportAgrees newYearText singlePhaseProfile [siteCeiling] ⟨1767225600000000000⟩ none 7360 230
      0 := by
  intro agrees
  have capped : cappedContributionAt newYearText singlePhaseProfile [siteCeiling]
      ⟨1767225600000000000⟩ .A 230 0 = some (6000 / 690, some 1) := by
    decide +kernel
  have bounded : boundedPowerWCapped newYearText (some singlePhaseProfile) [siteCeiling] 0
      ⟨1767225600000000000⟩ 7360 230 = some 6000 := by
    decide +kernel
  have reported := agrees _ _ capped
  rw [bounded] at reported
  exact absurd reported (by decide +kernel)

end Ocpp.V201ChargingProfiles
