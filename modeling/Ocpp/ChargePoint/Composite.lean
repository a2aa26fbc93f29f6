import Mathlib.Data.Prod.Lex
import Mathlib.Order.WithBot
import Mathlib.Algebra.Order.Ring.Unbundled.Rat
import Ocpp.Library.Iterator
import Ocpp.Library.Recurrence
import Ocpp.Library.Sampling
import Ocpp.Types.Charging

/-!
# The 1.6J composite schedule

`composite.rs`: the effective limit of a connector over a window, combined from the installed
profiles. The limit at an instant is the smaller of the winning override and the ceiling; the
schedule samples it at `boundaryOffsets` and reports the runs. The comparison of two limits within
`f64::EPSILON` is equality of rationals.
-/

namespace Ocpp.Composite
open Library V16j

def nominalVoltage : ℚ := 230

structure ScopedProfile where
  specific : Bool
  profile : ChargingProfile
  deriving DecidableEq, Repr

structure Contribution where
  limit : ℚ
  unit : ChargingRateUnitType
  phases : Option Int
  deriving DecidableEq, Repr

def convert (limit : ℚ) (source target : ChargingRateUnitType) (phases : Int) : ℚ :=
  match source, target with
  | .A, .A | .W, .W => limit
  | .A, .W => limit * nominalVoltage * phases
  | .W, .A => limit / (nominalVoltage * phases)

def anchor (profile : ChargingProfile) (windowStart : DateTime) : DateTime :=
  match profile.chargingProfileKind with
  | .relative => windowStart
  | .absolute | .recurring => profile.chargingSchedule.startSchedule.getD windowStart

def recurrencePeriod (profile : ChargingProfile) : Option Int :=
  if profile.chargingProfileKind ≠ .recurring then none
  else
    match profile.recurrencyKind with
    | some .daily => some 86400
    | some .weekly => some 604800
    | none => none

/-- The scan for the period in force: the greatest start at or before `offset`, the later of two
periods with the same start. -/
def choosePeriod (periods : List ChargingSchedulePeriod) (offset : Int) :
    Option ChargingSchedulePeriod :=
  periods.foldl (fun chosen period =>
    if period.startPeriod ≤ offset ∧ ∀ c ∈ chosen, c.startPeriod ≤ period.startPeriod
    then some period else chosen) none

def profileLimitAt (profile : ChargingProfile) (instant windowStart : DateTime) :
    Option Contribution :=
  if ∃ validFrom ∈ profile.validFrom, instant < validFrom then none
  else if ∃ validTo ∈ profile.validTo, validTo < instant then none
  else
    let sched := profile.chargingSchedule
    let rawOffset := instant.numSeconds (anchor profile windowStart)
    (scheduleOffset (recurrencePeriod profile) sched.duration rawOffset).bind fun offset =>
      (choosePeriod sched.chargingSchedulePeriod offset).map fun period =>
        ⟨period.limit, sched.chargingRateUnit, period.numberPhases⟩

def overrideRank : ChargingProfilePurposeType → Option Nat
  | .txProfile => some 2
  | .txDefaultProfile => some 1
  | .chargePointMaxProfile => none

/-- The applicable override with the greatest rank, then connector-specific before inherited, then
the greatest stack level. -/
def overrideLimitAt (candidates : List ScopedProfile) (instant windowStart : DateTime) :
    Option Contribution :=
  (maxByKey (fun x : (Nat ×ₗ Bool ×ₗ Int) × Contribution => x.1)
    (candidates.filterMap fun c =>
      (overrideRank c.profile.chargingProfilePurpose).bind fun rank =>
        (profileLimitAt c.profile instant windowStart).map fun contrib =>
          (toLex (rank, toLex (c.specific, c.profile.stackLevel)), contrib))).map Prod.snd

def ceilingLimitAt (candidates : List ScopedProfile) (instant windowStart : DateTime) :
    Option Contribution :=
  (maxByKey Prod.fst
    ((candidates.filter fun c => c.profile.chargingProfilePurpose = .chargePointMaxProfile).filterMap
      fun c => (profileLimitAt c.profile instant windowStart).map fun contrib =>
        (c.profile.stackLevel, contrib))).map Prod.snd

def outputUnit (candidates : List ScopedProfile) (requested : Option ChargingRateUnitType) :
    ChargingRateUnitType :=
  match requested with
  | some unit => unit
  | none =>
      ((maxByKey
          (fun c : ScopedProfile =>
            (toLex (overrideRank c.profile.chargingProfilePurpose, c.profile.stackLevel) :
              WithBot Nat ×ₗ Int))
          (candidates.filter fun c => (overrideRank c.profile.chargingProfilePurpose).isSome)).or
        candidates.head?).elim .A fun c => c.profile.chargingSchedule.chargingRateUnit

/-- The offsets one candidate contributes: its period starts, the end of its schedule and its
validity edges, in every occurrence that overlaps the window. -/
def candidateOffsets (profile : ChargingProfile) (windowStart : DateTime) (duration : Int) :
    List Int :=
  let base := (anchor profile windowStart).numSeconds windowStart
  let sched := profile.chargingSchedule
  boundaries (sched.chargingSchedulePeriod.map (·.startPeriod)) sched.duration duration base
      (recurrencePeriod profile) ++
    pushed duration (profile.validFrom.toList.map (·.numSeconds windowStart)) ++
    -- the limit is gone the second after `validTo`
    pushed duration (profile.validTo.toList.map (·.numSeconds windowStart + 1))

def boundaryOffsets (candidates : List ScopedProfile) (windowStart : DateTime) (duration : Int) :
    List Int :=
  sortDedup (0 :: candidates.flatMap fun c => candidateOffsets c.profile windowStart duration)

/-- One round of the loop over the override and the ceiling: a strictly smaller value replaces the
limit and its phase count. A phase count that is not positive converts as a single phase. -/
def tightest (unit : ChargingRateUnitType) (best : Option (ℚ × Option Int))
    (contrib : Contribution) : Option (ℚ × Option Int) :=
  let phaseCount := (contrib.phases.filter (0 < ·)).getD 1
  let value := convert contrib.limit contrib.unit unit phaseCount
  match best with
  | some (current, phases) => if current ≤ value then some (current, phases)
      else some (value, contrib.phases)
  | none => some (value, contrib.phases)

def effectiveLimitAt (candidates : List ScopedProfile) (instant windowStart : DateTime)
    (unit : ChargingRateUnitType) : Option (ℚ × Option Int) :=
  [overrideLimitAt candidates instant windowStart,
    ceilingLimitAt candidates instant windowStart].reduceOption.foldl (tightest unit) none

def computeComposite (candidates : List ScopedProfile) (start : DateTime) (durationSecs : Int)
    (requestedUnit : Option ChargingRateUnitType) : Option ChargingSchedule :=
  if durationSecs ≤ 0 then none
  else
    let unit := outputUnit candidates requestedUnit
    let periods : List ChargingSchedulePeriod :=
      (coalesce (fun offset => effectiveLimitAt candidates (start.addSeconds offset) start unit)
        (boundaryOffsets candidates start durationSecs)).map fun e => ⟨e.1, e.2.1, e.2.2⟩
    if periods.isEmpty then none
    else some
      { duration := some durationSecs
        startSchedule := some start
        chargingRateUnit := unit
        chargingSchedulePeriod := periods
        minChargingRate := none }

end Ocpp.Composite
