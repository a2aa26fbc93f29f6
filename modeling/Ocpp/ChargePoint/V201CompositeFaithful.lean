import Ocpp.ChargePoint.V201ChargingProfiles

/-!
# The 2.0.1 composite schedule is faithful on well-formed profiles

On profiles whose instants fall on the ticks of the window's clock, whose periods start at or after
their schedule and whose recurring schedules have a period at offset 0, the boundaries of the base
and of the ceilings cover every second at which the capped limit moves, so the runs read at the
boundaries reproduce it.
-/

namespace Ocpp.V201ChargingProfiles
open Library V201

variable {text : Rfc3339}

/-! ## One profile between two ticks -/

/-- The instants of a profile are whole seconds from the window's start, no period of its first
schedule starts before the schedule, and a recurring one has a period at offset 0. -/
structure WellFormed (text : Rfc3339) (profile : ChargingProfileType) (windowStart : DateTime) :
    Prop where
  validFrom : ∀ instant ∈ parseRfc3339 text profile.validFrom, instant.WholeSeconds windowStart
  validTo : ∀ instant ∈ parseRfc3339 text profile.validTo, instant.WholeSeconds windowStart
  startSchedule : ∀ schedule ∈ profile.chargingSchedule.head?,
    ∀ instant ∈ parseRfc3339 text schedule.startSchedule, instant.WholeSeconds windowStart
  starts : ∀ schedule ∈ profile.chargingSchedule.head?,
    ∀ period ∈ schedule.chargingSchedulePeriod, 0 ≤ period.startPeriod
  origin : profile.chargingProfileKind = .recurring → ∀ schedule ∈ profile.chargingSchedule.head?,
    ∃ period ∈ schedule.chargingSchedulePeriod, period.startPeriod = 0

theorem recurrencePeriod_pos (profile : ChargingProfileType) :
    ∀ p ∈ recurrencePeriod profile, 0 < p := by
  unfold recurrencePeriod
  intro p member
  split at member
  · simp at member
  · split at member <;> simp at member <;> omega

theorem recurring_of_recurrencePeriod {profile : ChargingProfileType} {p : Int}
    (repeats : recurrencePeriod profile = some p) : profile.chargingProfileKind = .recurring := by
  by_contra once
  simp [recurrencePeriod, once] at repeats

theorem periodAt_congr (schedule : ChargingScheduleType) {now before : Int}
    (same : ∀ s ∈ schedule.chargingSchedulePeriod.map (·.startPeriod), s ≤ now ↔ s ≤ before) :
    periodAt schedule now = periodAt schedule before := by
  have reached : schedule.chargingSchedulePeriod.filter (·.startPeriod ≤ now) =
      schedule.chargingSchedulePeriod.filter (·.startPeriod ≤ before) :=
    List.filter_congr fun period member => by simp only [same _ (List.mem_map_of_mem member)]
  rw [periodAt, periodAt, reached]

theorem anchor_wholeSeconds (profile : ChargingProfileType) {schedule : ChargingScheduleType}
    {windowStart : DateTime}
    (whole : ∀ instant ∈ parseRfc3339 text schedule.startSchedule, instant.WholeSeconds windowStart) :
    (anchor text profile schedule windowStart).WholeSeconds windowStart := by
  have started : ((parseRfc3339 text schedule.startSchedule).getD windowStart).WholeSeconds
      windowStart := by
    cases parsed : parseRfc3339 text schedule.startSchedule with
    | none => exact windowStart.wholeSeconds_self
    | some instant => exact whole instant parsed
  unfold anchor
  split
  · exact windowStart.wholeSeconds_self
  · exact started
  · exact started

theorem boundaries_mem_offsets {profile : ChargingProfileType} {schedule : ChargingScheduleType}
    (first : schedule ∈ profile.chargingSchedule.head?) {windowStart : DateTime} {duration t : Int}
    (member : t ∈ boundaries (schedule.chargingSchedulePeriod.map (·.startPeriod)) schedule.duration
      duration ((anchor text profile schedule windowStart).numSeconds windowStart)
      (recurrencePeriod profile)) :
    t ∈ compositeBoundaryOffsets text profile windowStart duration := by
  simp only [compositeBoundaryOffsets, mem_sortDedup, List.cons_append, List.mem_cons,
    List.mem_append, Option.mem_def.mp first]
  refine Or.inr (Or.inl (Or.inl ?_))
  cases period : recurrencePeriod profile with
  | none => simpa [period, boundaries] using member
  | some p =>
      have positive := recurrencePeriod_pos profile p period
      simpa [period, boundaries, positive] using member

section Quiet

variable {profile : ChargingProfileType} {windowStart : DateTime} {duration t : Int}
  (formed : WellFormed text profile windowStart) (low : 0 < t) (high : t < duration)
  (quiet : t ∉ compositeBoundaryOffsets text profile windowStart duration)
include formed low high quiet

theorem periodAt_quiet {schedule : ChargingScheduleType}
    (first : schedule ∈ profile.chargingSchedule.head?) :
    (scheduleOffset (recurrencePeriod profile) schedule.duration
        ((windowStart.addSeconds t).numSeconds (anchor text profile schedule windowStart))).bind
          (periodAt schedule) =
      (scheduleOffset (recurrencePeriod profile) schedule.duration
        ((windowStart.addSeconds (t - 1)).numSeconds (anchor text profile schedule windowStart))).bind
          (periodAt schedule) := by
  have whole := anchor_wholeSeconds profile (formed.startSchedule schedule first)
  have outside := mt (boundaries_mem_offsets first) quiet
  generalize anchor text profile schedule windowStart = anchored at whole outside ⊢
  rw [DateTime.numSeconds_addSeconds windowStart anchored t low.le (Or.inl whole),
    DateTime.numSeconds_addSeconds windowStart anchored (t - 1) (by omega) (Or.inl whole)]
  by_cases restart : wrapOffset (recurrencePeriod profile) (t - anchored.numSeconds windowStart) =
      some 0 → 0 ∈ schedule.chargingSchedulePeriod.map (·.startPeriod)
  · have step := scheduleOffset_quiet (recurrencePeriod_pos profile) low high outside restart
    rcases step with ⟨now, before⟩ | ⟨now, before, nowEq, beforeEq, same⟩
    · simp [now, before]
    · simp [nowEq, beforeEq, periodAt_congr schedule same]
  · -- a schedule that runs once begins here, and its first period is still ahead
    obtain ⟨origin, late⟩ := Classical.not_imp.mp restart
    cases period : recurrencePeriod profile with
    | some p =>
        obtain ⟨first', member, zero⟩ :=
          formed.origin (recurring_of_recurrencePeriod period) schedule first
        exact absurd (List.mem_map.mpr ⟨first', member, zero⟩) late
    | none =>
        have unreached : periodAt schedule 0 = none := by
          have none : schedule.chargingSchedulePeriod.filter (·.startPeriod ≤ 0) = [] := by
            apply List.filter_eq_nil_iff.mpr
            intro period' member
            have nonneg := formed.starts schedule first period' member
            have nonzero : period'.startPeriod ≠ 0 := fun zero =>
              late (List.mem_map.mpr ⟨period', member, zero⟩)
            simp only [decide_eq_true_eq, not_le]
            omega
          simp [periodAt, none, maxByKey]
        rw [period] at origin
        have before : scheduleOffset none schedule.duration
            (t - 1 - anchored.numSeconds windowStart) = none := by
          have early : t - 1 - anchored.numSeconds windowStart < 0 := by
            simp only [wrapOffset] at origin
            split at origin <;> simp at origin
            omega
          simp [scheduleOffset, wrapOffset, early]
        rw [before, scheduleOffset, origin]
        cases schedule.duration with
        | none => simp [unreached]
        | some d => by_cases ended : d ≤ 0 <;> simp [ended, unreached]

theorem resolveActive_quiet :
    resolveActive text profile t windowStart = resolveActive text profile (t - 1) windowStart := by
  have validFrom : (∃ edge ∈ parseRfc3339 text profile.validFrom, windowStart.addSeconds t < edge) ↔
      ∃ edge ∈ parseRfc3339 text profile.validFrom, windowStart.addSeconds (t - 1) < edge := by
    refine exists_congr fun edge => and_congr_right fun parsed =>
      DateTime.addSeconds_lt_iff windowStart edge t ?_ fun landed => quiet ?_
    · have whole := formed.validFrom edge parsed
      simp only [DateTime.WholeSeconds, DateTime.lt_iff, DateTime.addSeconds] at whole ⊢
      omega
    · simp [compositeBoundaryOffsets, Option.mem_def.mp parsed, landed, low, high]
  have validTo : (∃ edge ∈ parseRfc3339 text profile.validTo, edge < windowStart.addSeconds t) ↔
      ∃ edge ∈ parseRfc3339 text profile.validTo, edge < windowStart.addSeconds (t - 1) := by
    refine exists_congr fun edge => and_congr_right fun parsed =>
      DateTime.lt_addSeconds_iff windowStart edge t low fun landed => quiet ?_
    simp [compositeBoundaryOffsets, Option.mem_def.mp parsed, landed, low, high]
  simp only [resolveActive, validFrom, validTo]
  cases first : profile.chargingSchedule.head? with
  | none => rfl
  | some schedule =>
      have inForce := periodAt_quiet formed low high quiet (Option.mem_def.mpr first)
      have choose (offset : Option Int) :
          (offset.bind fun o => (periodAt schedule o).map fun period => (schedule, period)) =
            (offset.bind (periodAt schedule)).map fun period => (schedule, period) := by
        cases offset <;> rfl
      simp only [Option.bind_some, choose, inForce]

end Quiet

/-! ## The window -/

theorem zero_mem_offsets (profile : ChargingProfileType) (windowStart : DateTime) (duration : Int) :
    0 ∈ compositeBoundaryOffsets text profile windowStart duration := by
  simp [compositeBoundaryOffsets]

theorem compositeBoundaryOffsets_inside {profile : ChargingProfileType} {windowStart : DateTime}
    {duration t : Int} (positive : 0 < duration)
    (member : t ∈ compositeBoundaryOffsets text profile windowStart duration) :
    0 ≤ t ∧ t < duration := by
  have weaken : 0 < t ∧ t < duration → 0 ≤ t ∧ t < duration := And.imp_left le_of_lt
  simp only [compositeBoundaryOffsets, mem_sortDedup, List.cons_append, List.mem_cons,
    List.mem_append] at member
  rcases member with rfl | (scheduled | validFrom) | validTo
  · exact ⟨le_rfl, positive⟩
  · split at scheduled
    · simp at scheduled
    · split at scheduled
      · split at scheduled
        · exact weaken (occurrences_inside scheduled)
        · exact weaken (mem_pushed.mp scheduled).2
      · exact weaken (mem_pushed.mp scheduled).2
  · exact weaken (mem_pushed.mp validFrom).2
  · exact weaken (mem_pushed.mp validTo).2

def cappedOffsets (text : Rfc3339) (profile : ChargingProfileType)
    (ceilings : List ChargingProfileType) (windowStart : DateTime) (duration : Int) : List Int :=
  sortDedup (compositeBoundaryOffsets text profile windowStart duration ++
    ceilings.flatMap fun ceiling => compositeBoundaryOffsets text ceiling windowStart duration)

theorem mem_cappedOffsets {profile : ChargingProfileType} {ceilings : List ChargingProfileType}
    {windowStart : DateTime} {duration t : Int} :
    t ∈ cappedOffsets text profile ceilings windowStart duration ↔
      ∃ p ∈ profile :: ceilings, t ∈ compositeBoundaryOffsets text p windowStart duration := by
  simp [cappedOffsets]

theorem compositeContributionAt_congr {profile : ChargingProfileType} {windowStart : DateTime}
    {now before : Int} (outUnit : ChargingRateUnitEnumType) (nominalVoltageV : ℚ)
    (same : resolveActive text profile now windowStart = resolveActive text profile before windowStart) :
    compositeContributionAt text profile now windowStart outUnit nominalVoltageV =
      compositeContributionAt text profile before windowStart outUnit nominalVoltageV := by
  rw [compositeContributionAt, compositeContributionAt, same]

theorem cappedContributionAt_quiet {profile : ChargingProfileType}
    {ceilings : List ChargingProfileType} {windowStart : DateTime} {duration t : Int}
    (formed : ∀ p ∈ profile :: ceilings, WellFormed text p windowStart)
    (outUnit : ChargingRateUnitEnumType) (nominalVoltageV : ℚ) (low : 0 < t) (high : t < duration)
    (quiet : t ∉ cappedOffsets text profile ceilings windowStart duration) :
    cappedContributionAt text profile ceilings windowStart outUnit nominalVoltageV t =
      cappedContributionAt text profile ceilings windowStart outUnit nominalVoltageV (t - 1) := by
  have same (p : ChargingProfileType) (member : p ∈ profile :: ceilings) :
      compositeContributionAt text p t windowStart outUnit nominalVoltageV =
        compositeContributionAt text p (t - 1) windowStart outUnit nominalVoltageV :=
    compositeContributionAt_congr outUnit nominalVoltageV
      (resolveActive_quiet (formed p member) low high
        fun offset => quiet (mem_cappedOffsets.mpr ⟨p, member, offset⟩))
  have capped : ceilings.filterMap (fun ceiling =>
        (compositeContributionAt text ceiling t windowStart outUnit nominalVoltageV).map Prod.fst) =
      ceilings.filterMap fun ceiling =>
        (compositeContributionAt text ceiling (t - 1) windowStart outUnit nominalVoltageV).map Prod.fst :=
    List.filterMap_congr fun ceiling member => by rw [same ceiling (List.mem_cons_of_mem _ member)]
  simp only [cappedContributionAt, same profile List.mem_cons_self, capped]

/-! ## The reported schedule -/

def reportedAt (schedule : CompositeScheduleType) (t : Int) : Option ChargingSchedulePeriodType :=
  (schedule.chargingSchedulePeriod.filter (·.startPeriod ≤ t)).getLast?

section Reported

variable (text) (evseId : Int) (profile : ChargingProfileType) (ceilings : List ChargingProfileType)
  (windowStart : DateTime) (duration : Int) (requestedUnit : Option ChargingRateUnitEnumType)
  (nominalVoltageV : ℚ)

def cappedRuns : List (Int × ℚ × Option Int) :=
  coalesce (cappedContributionAt text profile ceilings windowStart
      (reportedUnit profile requestedUnit) nominalVoltageV)
    (cappedOffsets text profile ceilings windowStart duration)

theorem composeCompositeScheduleCapped_eq (positive : 0 < duration) :
    composeCompositeScheduleCapped text evseId profile ceilings windowStart duration requestedUnit
        nominalVoltageV =
      if (cappedRuns text profile ceilings windowStart duration requestedUnit nominalVoltageV).isEmpty
      then none
      else some
        { evseId, duration
          scheduleStart := text.print windowStart
          chargingRateUnit := reportedUnit profile requestedUnit
          chargingSchedulePeriod :=
            (cappedRuns text profile ceilings windowStart duration requestedUnit nominalVoltageV).map
              fun e => ⟨e.1, e.2.1, e.2.2, none⟩ } := by
  have opened : ¬duration ≤ 0 := not_le.mpr positive
  simp only [composeCompositeScheduleCapped, opened, if_false, List.isEmpty_map]
  rfl

theorem cappedContributionAt_isLeast (outUnit : ChargingRateUnitEnumType) {t : Int} {b : ℚ}
    {phases : Option Int}
    (base : compositeContributionAt text profile t windowStart outUnit nominalVoltageV =
      some (b, phases)) :
    ∃ limit, cappedContributionAt text profile ceilings windowStart outUnit nominalVoltageV t =
        some (limit, phases) ∧
      IsLeast {x | x = b ∨ ∃ ceiling ∈ ceilings, ∃ ph,
        compositeContributionAt text ceiling t windowStart outUnit nominalVoltageV = some (x, ph)}
        limit := by
  rw [cappedContributionAt, base, Option.map_some]
  refine ⟨_, rfl, ?_⟩
  have terms : {x | x = b ∨ ∃ ceiling ∈ ceilings, ∃ ph,
        compositeContributionAt text ceiling t windowStart outUnit nominalVoltageV = some (x, ph)} =
      {x | x = b ∨ x ∈ ceilings.filterMap fun ceiling =>
        (compositeContributionAt text ceiling t windowStart outUnit nominalVoltageV).map Prod.fst} := by
    ext x
    simp
  rw [terms]
  exact foldl_min_isLeast _ b

theorem cappedContributionAt_eq_none (outUnit : ChargingRateUnitEnumType) (t : Int) :
    cappedContributionAt text profile ceilings windowStart outUnit nominalVoltageV t = none ↔
      compositeContributionAt text profile t windowStart outUnit nominalVoltageV = none := by
  simp [cappedContributionAt]

theorem cappedOffsets_inside (positive : 0 < duration) {t : Int}
    (member : t ∈ cappedOffsets text profile ceilings windowStart duration) : 0 ≤ t ∧ t < duration := by
  obtain ⟨p, -, offset⟩ := mem_cappedOffsets.mp member
  exact compositeBoundaryOffsets_inside positive offset

theorem heldAt_cappedRuns (positive : 0 < duration)
    (formed : ∀ p ∈ profile :: ceilings, WellFormed text p windowStart) {t : Int} (low : 0 ≤ t)
    (high : t < duration) {v : ℚ × Option Int}
    (here : cappedContributionAt text profile ceilings windowStart
      (reportedUnit profile requestedUnit) nominalVoltageV t = some v) :
    heldAt (cappedRuns text profile ceilings windowStart duration requestedUnit nominalVoltageV) t =
      some v := by
  have zero : 0 ∈ cappedOffsets text profile ceilings windowStart duration :=
    mem_cappedOffsets.mpr ⟨profile, List.mem_cons_self, zero_mem_offsets profile windowStart duration⟩
  refine coalesce_faithful _ _ (sortDedup_sorted _) zero ?_ duration ?_ t low high here
  · intro u member
    exact (cappedOffsets_inside text profile ceilings windowStart duration positive member).1
  · intro u low high quiet
    exact cappedContributionAt_quiet formed _ nominalVoltageV low high quiet

theorem cappedRuns_starts_sublist :
    ((cappedRuns text profile ceilings windowStart duration requestedUnit nominalVoltageV).map
      Prod.fst).Sublist (cappedOffsets text profile ceilings windowStart duration) :=
  coalesce_starts_sublist _ _

theorem cappedRuns_eq_nil (positive : 0 < duration)
    (formed : ∀ p ∈ profile :: ceilings, WellFormed text p windowStart) :
    cappedRuns text profile ceilings windowStart duration requestedUnit nominalVoltageV = [] ↔
      ∀ t, 0 ≤ t → t < duration → compositeContributionAt text profile t windowStart
        (reportedUnit profile requestedUnit) nominalVoltageV = none := by
  constructor
  · intro nothing t low high
    rw [← cappedContributionAt_eq_none text profile ceilings]
    cases here : cappedContributionAt text profile ceilings windowStart
        (reportedUnit profile requestedUnit) nominalVoltageV t with
    | none => rfl
    | some v =>
        have held := heldAt_cappedRuns text profile ceilings windowStart duration requestedUnit
          nominalVoltageV positive formed low high here
        simp [nothing, heldAt] at held
  · intro silent
    refine (coalesce_eq_nil _ _).mpr fun t member => ?_
    obtain ⟨low, high⟩ :=
      cappedOffsets_inside text profile ceilings windowStart duration positive member
    exact (cappedContributionAt_eq_none text profile ceilings windowStart nominalVoltageV _ t).mpr
      (silent t low high)

end Reported

/-- The reported schedule carries, at every second of the window at which the base is in force, the
base's phase count and the least of the base's and of the active ceilings' limits. -/
theorem composeCompositeScheduleCapped_faithful (evseId : Int) (profile : ChargingProfileType)
    (ceilings : List ChargingProfileType) (windowStart : DateTime) (duration : Int)
    (requestedUnit : Option ChargingRateUnitEnumType) (nominalVoltageV : ℚ)
    (positive : 0 < duration) (formed : ∀ p ∈ profile :: ceilings, WellFormed text p windowStart) :
    let outUnit := reportedUnit profile requestedUnit
    let contribution := fun p t =>
      compositeContributionAt text p t windowStart outUnit nominalVoltageV
    let result := composeCompositeScheduleCapped text evseId profile ceilings windowStart duration
      requestedUnit nominalVoltageV
    (∀ t, 0 ≤ t → t < duration → ∀ b phases, contribution profile t = some (b, phases) →
      ∃ schedule, result = some schedule ∧ ∃ period, reportedAt schedule t = some period ∧
        period.numberPhases = phases ∧
        IsLeast {x | x = b ∨ ∃ ceiling ∈ ceilings, ∃ ph, contribution ceiling t = some (x, ph)}
          period.limit) ∧
    (∀ schedule, result = some schedule → schedule.chargingRateUnit = outUnit ∧
      (schedule.chargingSchedulePeriod.map (·.startPeriod)).Pairwise (· < ·) ∧
      ∀ period ∈ schedule.chargingSchedulePeriod,
        0 ≤ period.startPeriod ∧ period.startPeriod < duration) ∧
    (result = none ↔ ∀ t, 0 ≤ t → t < duration → contribution profile t = none) := by
  intro outUnit contribution result
  let runs := cappedRuns text profile ceilings windowStart duration requestedUnit nominalVoltageV
  have composed := composeCompositeScheduleCapped_eq text evseId profile ceilings windowStart duration
    requestedUnit nominalVoltageV positive
  refine ⟨?_, ?_, ?_⟩
  · intro t low high b phases base
    obtain ⟨limit, here, least⟩ := cappedContributionAt_isLeast text profile ceilings windowStart
      nominalVoltageV outUnit base
    have held := heldAt_cappedRuns text profile ceilings windowStart duration requestedUnit
      nominalVoltageV positive formed low high here
    obtain ⟨e, last, same⟩ := Option.map_eq_some_iff.mp held
    have nonempty : ¬runs.isEmpty := by
      rw [List.isEmpty_iff]
      intro nothing
      simp only [runs] at nothing
      simp [nothing] at last
    refine ⟨_, composed.trans (if_neg nonempty), ⟨e.1, e.2.1, e.2.2, none⟩, ?_, ?_, ?_⟩
    · exact (getLast?_filter_map _ ChargingSchedulePeriodType.startPeriod (fun _ => rfl) runs t).trans
        (by rw [last]; rfl)
    · rw [same]
    · rw [same]
      exact least
  · intro schedule reported
    simp only [result, composed] at reported
    split at reported
    · simp at reported
    · obtain rfl := Option.some.inj reported
      have starts := cappedRuns_starts_sublist text profile ceilings windowStart duration requestedUnit
        nominalVoltageV
      have started : (runs.map fun e => (⟨e.1, e.2.1, e.2.2, none⟩ : ChargingSchedulePeriodType)).map
          (·.startPeriod) = runs.map Prod.fst := by
        simp [Function.comp_def]
      refine ⟨rfl, ?_, ?_⟩
      · change (List.map _ (List.map _ runs)).Pairwise _
        rw [started]
        exact (sortDedup_sorted _).sublist starts
      · intro period member
        obtain ⟨e, run, rfl⟩ := List.mem_map.mp member
        exact cappedOffsets_inside text profile ceilings windowStart duration positive
          (starts.subset (List.mem_map_of_mem run))
  · rw [← cappedRuns_eq_nil text profile ceilings windowStart duration requestedUnit nominalVoltageV
      positive formed]
    simp only [result, composed, ite_eq_left_iff, reduceCtorEq, imp_false, not_not, List.isEmpty_iff]

/-- `chrono` on the timestamps of the two profiles below. -/
def newYearText : Rfc3339 where
  parse field :=
    if field = "2025-12-31T22:00:00Z" then some ⟨1767218400000000000⟩
    else if field = "2026-01-01T01:00:00Z" then some ⟨1767229200000000000⟩
    else none
  print instant :=
    if instant = ⟨1767225600000000000⟩ then "2026-01-01T00:00:00+00:00"
    else if instant = ⟨1767218400000000000⟩ then "2025-12-31T22:00:00+00:00"
    else "2026-01-01T01:00:00+00:00"

def eveningProfile : ChargingProfileType :=
  { id := 1, stackLevel := 0, chargingProfilePurpose := .txDefaultProfile
    chargingProfileKind := .recurring, recurrencyKind := some .daily
    validFrom := none, validTo := none, transactionId := none
    chargingSchedule :=
      [{ id := 1, chargingRateUnit := .A, startSchedule := some "2025-12-31T22:00:00Z"
         duration := some 28800, minChargingRate := none
         chargingSchedulePeriod := [⟨0, 16, some 3, none⟩, ⟨10800, 10, some 3, none⟩] }] }

def nightCeiling : ChargingProfileType :=
  { id := 2, stackLevel := 0, chargingProfilePurpose := .chargingStationMaxProfile
    chargingProfileKind := .absolute, recurrencyKind := none
    validFrom := some "2026-01-01T01:00:00Z", validTo := none, transactionId := none
    chargingSchedule :=
      [{ id := 2, chargingRateUnit := .W, startSchedule := some "2025-12-31T22:00:00Z"
         duration := none, minChargingRate := none
         chargingSchedulePeriod := [⟨0, 6900, none, none⟩] }] }

theorem eveningProfile_reported_faithfully :
    ∃ schedule, composeCompositeScheduleCapped newYearText 1 eveningProfile [nightCeiling]
        ⟨1767225600000000000⟩ 7200 none 230 = some schedule ∧
      ∃ period, reportedAt schedule 5000 = some period ∧ period.numberPhases = some 3 ∧
        period.limit ≤ 10 := by
  have formed : ∀ p ∈ [eveningProfile, nightCeiling],
      WellFormed newYearText p ⟨1767225600000000000⟩ := by
    intro p member
    simp only [List.mem_cons, List.not_mem_nil, or_false] at member
    rcases member with rfl | rfl
    · exact ⟨by decide +kernel, by decide +kernel, by decide +kernel, by decide +kernel,
        by decide +kernel⟩
    · exact ⟨by decide +kernel, by decide +kernel, by decide +kernel, by decide +kernel,
        by decide +kernel⟩
  have base : compositeContributionAt newYearText eveningProfile 5000 ⟨1767225600000000000⟩
      (reportedUnit eveningProfile none) 230 = some (10, some 3) := by
    decide +kernel
  obtain ⟨reported, -, -⟩ := composeCompositeScheduleCapped_faithful 1
    eveningProfile [nightCeiling] ⟨1767225600000000000⟩ 7200 none 230 (by decide) formed
  obtain ⟨schedule, composed, period, found, phases, least⟩ :=
    reported 5000 (by decide) (by decide) _ _ base
  exact ⟨schedule, composed, period, found, phases, least.2 (Or.inl rfl)⟩

end Ocpp.V201ChargingProfiles
