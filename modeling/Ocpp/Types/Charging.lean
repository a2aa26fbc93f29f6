import Mathlib.Data.Rat.Defs
import Ocpp.Types.Time

/-!
# Charging profiles

The smart-charging types of the two dialects, without their vendor extensions and sales tariffs,
which no modelled function reads. Limits are exact rationals.
-/

namespace Ocpp

namespace V16j

inductive ChargingProfilePurposeType
  | chargePointMaxProfile
  | txDefaultProfile
  | txProfile
  deriving DecidableEq, Repr

inductive ChargingProfileKindType
  | absolute
  | recurring
  | relative
  deriving DecidableEq, Repr

inductive RecurrencyKindType
  | daily
  | weekly
  deriving DecidableEq, Repr

inductive ChargingRateUnitType
  | W
  | A
  deriving DecidableEq, Repr

structure ChargingSchedulePeriod where
  startPeriod : Int
  limit : ℚ
  numberPhases : Option Int
  deriving DecidableEq, Repr

structure ChargingSchedule where
  duration : Option Int
  startSchedule : Option DateTime
  chargingRateUnit : ChargingRateUnitType
  chargingSchedulePeriod : List ChargingSchedulePeriod
  minChargingRate : Option ℚ
  deriving DecidableEq, Repr

structure ChargingProfile where
  chargingProfileId : Int
  transactionId : Option Int
  stackLevel : Int
  chargingProfilePurpose : ChargingProfilePurposeType
  chargingProfileKind : ChargingProfileKindType
  recurrencyKind : Option RecurrencyKindType
  validFrom : Option DateTime
  validTo : Option DateTime
  chargingSchedule : ChargingSchedule
  deriving DecidableEq, Repr

end V16j

namespace V201

inductive ChargingProfilePurposeEnumType
  | chargingStationExternalConstraints
  | chargingStationMaxProfile
  | txDefaultProfile
  | txProfile
  deriving DecidableEq, Repr

inductive ChargingProfileKindEnumType
  | absolute
  | recurring
  | relative
  deriving DecidableEq, Repr

inductive RecurrencyKindEnumType
  | daily
  | weekly
  deriving DecidableEq, Repr

inductive ChargingRateUnitEnumType
  | W
  | A
  deriving DecidableEq, Repr

structure ChargingSchedulePeriodType where
  startPeriod : Int
  limit : ℚ
  numberPhases : Option Int
  phaseToUse : Option Int
  deriving DecidableEq, Repr

/-- `startSchedule` is RFC 3339 text, as are the validity bounds of the profile. -/
structure ChargingScheduleType where
  id : Int
  chargingRateUnit : ChargingRateUnitEnumType
  chargingSchedulePeriod : List ChargingSchedulePeriodType
  startSchedule : Option String
  duration : Option Int
  minChargingRate : Option ℚ
  deriving DecidableEq, Repr

structure ChargingProfileType where
  id : Int
  stackLevel : Int
  chargingProfilePurpose : ChargingProfilePurposeEnumType
  chargingProfileKind : ChargingProfileKindEnumType
  chargingSchedule : List ChargingScheduleType
  recurrencyKind : Option RecurrencyKindEnumType
  validFrom : Option String
  validTo : Option String
  transactionId : Option String
  deriving DecidableEq, Repr

structure CompositeScheduleType where
  evseId : Int
  duration : Int
  scheduleStart : String
  chargingRateUnit : ChargingRateUnitEnumType
  chargingSchedulePeriod : List ChargingSchedulePeriodType
  deriving DecidableEq, Repr

end V201

end Ocpp
