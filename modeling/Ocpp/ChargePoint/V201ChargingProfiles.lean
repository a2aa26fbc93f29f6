import Mathlib.Algebra.Order.Ring.Unbundled.Rat
import Mathlib.Algebra.Order.Ring.Int
import Ocpp.Library.Iterator
import Ocpp.Library.Recurrence
import Ocpp.Library.Sampling
import Ocpp.Types.Charging

/-!
# Limits of 2.0.1 charging profiles

`v201_charging_profiles.rs`: the limit a profile imposes a number of seconds into a transaction, the
power the metering path is bounded to, and the composite schedule a `GetCompositeSchedule` reports.
Only the first schedule of a profile counts. Timestamps are RFC 3339 text; one that does not parse
is taken as absent.
-/

namespace Ocpp.V201ChargingProfiles
open Library V201

variable (text : Rfc3339)

def parseRfc3339 (field : Option String) : Option DateTime :=
  field.bind text.parse

def anchor (profile : ChargingProfileType) (schedule : ChargingScheduleType) (txStart : DateTime) :
    DateTime :=
  match profile.chargingProfileKind with
  | .relative => txStart
  | .absolute | .recurring => (parseRfc3339 text schedule.startSchedule).getD txStart

def recurrencePeriod (profile : ChargingProfileType) : Option Int :=
  if profile.chargingProfileKind ≠ .recurring then none
  else
    match profile.recurrencyKind with
    | some .daily => some 86400
    | some .weekly => some 604800
    | none => none

def periodAt (schedule : ChargingScheduleType) (offset : Int) : Option ChargingSchedulePeriodType :=
  maxByKey (·.startPeriod) (schedule.chargingSchedulePeriod.filter (·.startPeriod ≤ offset))

def resolveActive (profile : ChargingProfileType) (elapsedS : Int) (txStart : DateTime) :
    Option (ChargingScheduleType × ChargingSchedulePeriodType) :=
  let now := txStart.addSeconds elapsedS
  if ∃ validFrom ∈ parseRfc3339 text profile.validFrom, now < validFrom then none
  else if ∃ validTo ∈ parseRfc3339 text profile.validTo, validTo < now then none
  else
    profile.chargingSchedule.head?.bind fun schedule =>
      let rawOffset := now.numSeconds (anchor text profile schedule txStart)
      (scheduleOffset (recurrencePeriod profile) schedule.duration rawOffset).bind fun offset =>
        (periodAt schedule offset).map fun period => (schedule, period)

def flooredLimit (schedule : ChargingScheduleType) (period : ChargingSchedulePeriodType) : ℚ :=
  match schedule.minChargingRate with
  | some floor => max period.limit floor
  | none => period.limit

/-- The number of phases of a period: 3 when absent, clamped to 1, 2 or 3. -/
def effectivePhases (period : ChargingSchedulePeriodType) : Int :=
  max 1 (min (period.numberPhases.getD 3) 3)

def activeLimit (profile : ChargingProfileType) (elapsedS : Int) (txStart : DateTime) :
    Option (ℚ × ChargingRateUnitEnumType) :=
  (resolveActive text profile elapsedS txStart).map fun (schedule, period) =>
    (flooredLimit schedule period, schedule.chargingRateUnit)

def activeLimitW (profile : ChargingProfileType) (elapsedS : Int) (txStart : DateTime)
    (nominalVoltageV : ℚ) : Option ℚ :=
  (resolveActive text profile elapsedS txStart).map fun (schedule, period) =>
    let limit := flooredLimit schedule period
    match schedule.chargingRateUnit with
    | .W => limit
    | .A => limit * nominalVoltageV * effectivePhases period

def boundedPowerW (profile : ChargingProfileType) (elapsedS : Int) (txStart : DateTime)
    (naturalPowerW nominalVoltageV : ℚ) : Option ℚ :=
  (activeLimitW text profile elapsedS txStart nominalVoltageV).bind fun limitW =>
    if limitW < naturalPowerW then some limitW else none

def tightenW (elapsedS : Int) (txStart : DateTime) (nominalVoltageV : ℚ) (limitW : ℚ)
    (profile : ChargingProfileType) : ℚ :=
  match activeLimitW text profile elapsedS txStart nominalVoltageV with
  | some w => min limitW w
  | none => limitW

/-- The smallest of the natural rate, the effective profile and the ceilings, if it is below the
natural rate. -/
def boundedPowerWCapped (effectiveProfile : Option ChargingProfileType)
    (ceilings : List ChargingProfileType) (elapsedS : Int) (txStart : DateTime)
    (naturalPowerW nominalVoltageV : ℚ) : Option ℚ :=
  let limitW := (effectiveProfile.toList ++ ceilings).foldl
    (tightenW text elapsedS txStart nominalVoltageV) naturalPowerW
  if limitW < naturalPowerW then some limitW else none

def convertRate (limit : ℚ) (source target : ChargingRateUnitEnumType) (phases : Int)
    (nominalVoltageV : ℚ) : ℚ :=
  match source, target with
  | .A, .A | .W, .W => limit
  | .A, .W => limit * nominalVoltageV * phases
  | .W, .A =>
      let denom := nominalVoltageV * phases
      if denom = 0 then limit else limit / denom

def compositeContributionAt (profile : ChargingProfileType) (offset : Int) (windowStart : DateTime)
    (outUnit : ChargingRateUnitEnumType) (nominalVoltageV : ℚ) : Option (ℚ × Option Int) :=
  (resolveActive text profile offset windowStart).map fun (schedule, period) =>
    (convertRate (flooredLimit schedule period) schedule.chargingRateUnit outUnit
      (effectivePhases period) nominalVoltageV, period.numberPhases)

def compositeBoundaryOffsets (profile : ChargingProfileType) (windowStart : DateTime)
    (duration : Int) : List Int :=
  let scheduled :=
    match profile.chargingSchedule.head? with
    | none => []
    | some schedule =>
        let base := (anchor text profile schedule windowStart).numSeconds windowStart
        let starts := schedule.chargingSchedulePeriod.map (·.startPeriod)
        match recurrencePeriod profile with
        | some period =>
            if 0 < period then recurringBoundaries starts schedule.duration duration base period
            else singleBoundaries starts schedule.duration duration base
        | none => singleBoundaries starts schedule.duration duration base
  sortDedup (0 :: scheduled ++
    pushed duration ((parseRfc3339 text profile.validFrom).toList.map (·.numSeconds windowStart)) ++
    -- the limit is gone the second after `validTo`
    pushed duration ((parseRfc3339 text profile.validTo).toList.map (·.numSeconds windowStart + 1)))

/-- The base limit `offset` seconds into the window, capped by the ceilings in force there. The
phase count stays the base's. -/
def cappedContributionAt (profile : ChargingProfileType) (ceilings : List ChargingProfileType)
    (windowStart : DateTime) (outUnit : ChargingRateUnitEnumType) (nominalVoltageV : ℚ)
    (offset : Int) : Option (ℚ × Option Int) :=
  (compositeContributionAt text profile offset windowStart outUnit nominalVoltageV).map
    fun (baseLimit, phases) =>
      let capped := ceilings.filterMap fun ceiling =>
        (compositeContributionAt text ceiling offset windowStart outUnit nominalVoltageV).map Prod.fst
      (capped.foldl min baseLimit, phases)

def reportedUnit (profile : ChargingProfileType) (requestedUnit : Option ChargingRateUnitEnumType) :
    ChargingRateUnitEnumType :=
  requestedUnit.getD (profile.chargingSchedule.head?.elim .W (·.chargingRateUnit))

def composeCompositeScheduleCapped (evseId : Int) (profile : ChargingProfileType)
    (ceilings : List ChargingProfileType) (windowStart : DateTime) (duration : Int)
    (requestedUnit : Option ChargingRateUnitEnumType) (nominalVoltageV : ℚ) :
    Option CompositeScheduleType :=
  if duration ≤ 0 then none
  else
    let outUnit := reportedUnit profile requestedUnit
    let offsets := sortDedup (compositeBoundaryOffsets text profile windowStart duration ++
      ceilings.flatMap fun ceiling => compositeBoundaryOffsets text ceiling windowStart duration)
    let periods : List ChargingSchedulePeriodType :=
      (coalesce (cappedContributionAt text profile ceilings windowStart outUnit nominalVoltageV)
        offsets).map fun e => ⟨e.1, e.2.1, e.2.2, none⟩
    if periods.isEmpty then none
    else some
      { evseId
        duration
        scheduleStart := text.print windowStart
        chargingRateUnit := outUnit
        chargingSchedulePeriod := periods }

def composeCompositeSchedule (evseId : Int) (profile : ChargingProfileType) (windowStart : DateTime)
    (duration : Int) (requestedUnit : Option ChargingRateUnitEnumType) (nominalVoltageV : ℚ) :
    Option CompositeScheduleType :=
  composeCompositeScheduleCapped text evseId profile [] windowStart duration requestedUnit
    nominalVoltageV

end Ocpp.V201ChargingProfiles
