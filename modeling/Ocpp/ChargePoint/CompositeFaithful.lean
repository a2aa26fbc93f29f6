import Ocpp.ChargePoint.Composite

/-!
# How faithful the 1.6J composite schedule is

The reported schedule is compared with the effective limit at every whole second of the window.
`boundaryOffsets` misses a second at which a candidate's own limit may change in three cases
(`UnsampledChange`): a `validFrom` between two ticks of the window's clock, an anchor between two
ticks, after which every start and end is a second late, and a schedule that begins or repeats
without a period at offset 0. Everywhere else a change is sampled (`profileLimitAt_quiet`), so the
schedule is faithful exactly when those seconds do not step (`computeComposite_faithful_iff`).
-/

namespace Ocpp.Composite
open Library V16j

/-! ## One profile between two ticks -/

theorem recurrencePeriod_pos (profile : ChargingProfile) :
    ∀ p ∈ recurrencePeriod profile, 0 < p := by
  unfold recurrencePeriod
  intro p member
  split at member
  · simp at member
  · split at member <;> simp at member <;> omega

theorem choosePeriod_congr (periods : List ChargingSchedulePeriod) {now before : Int}
    (same : ∀ s ∈ periods.map (·.startPeriod), s ≤ now ↔ s ≤ before) :
    choosePeriod periods now = choosePeriod periods before := by
  unfold choosePeriod
  apply List.foldl_ext
  intro chosen period member
  simp only [same _ (List.mem_map_of_mem member)]

def scheduleBase (profile : ChargingProfile) (windowStart : DateTime) : Int :=
  (anchor profile windowStart).numSeconds windowStart

/-- The second `t` is one at which the limit of `profile` may change although none of its offsets
needs to fall on it. -/
def UnsampledChange (profile : ChargingProfile) (windowStart : DateTime) (t : Int) : Prop :=
  (∃ validFrom ∈ profile.validFrom,
    windowStart.addSeconds (t - 1) < validFrom ∧ validFrom < windowStart.addSeconds t) ∨
  (¬(anchor profile windowStart).WholeSeconds windowStart ∧
    windowStart < anchor profile windowStart ∧
    anchor profile windowStart < windowStart.addSeconds t) ∨
  (wrapOffset (recurrencePeriod profile) (t - scheduleBase profile windowStart) = some 0 ∧
    ∀ period ∈ profile.chargingSchedule.chargingSchedulePeriod, period.startPeriod ≠ 0)

section Quiet

variable {profile : ChargingProfile} {windowStart : DateTime} {duration t : Int} (low : 0 < t)
  (high : t < duration) (quiet : t ∉ candidateOffsets profile windowStart duration)
  (sampled : ¬UnsampledChange profile windowStart t)
include low high quiet sampled

theorem validFrom_quiet :
    (∃ validFrom ∈ profile.validFrom, windowStart.addSeconds t < validFrom) ↔
      ∃ validFrom ∈ profile.validFrom, windowStart.addSeconds (t - 1) < validFrom := by
  refine exists_congr fun validFrom => and_congr_right fun edge =>
    DateTime.addSeconds_lt_iff windowStart validFrom t
      (fun inside => sampled (Or.inl ⟨validFrom, edge, inside⟩)) fun landed => quiet ?_
  simp [candidateOffsets, Option.mem_def.mp edge, landed, low, high]

omit sampled in
theorem validTo_quiet :
    (∃ validTo ∈ profile.validTo, validTo < windowStart.addSeconds t) ↔
      ∃ validTo ∈ profile.validTo, validTo < windowStart.addSeconds (t - 1) := by
  refine exists_congr fun validTo => and_congr_right fun edge =>
    DateTime.lt_addSeconds_iff windowStart validTo t low fun landed => quiet ?_
  simp [candidateOffsets, Option.mem_def.mp edge, landed, low, high]

omit high quiet in
theorem rawOffset_quiet :
    (windowStart.addSeconds t).numSeconds (anchor profile windowStart) =
        t - scheduleBase profile windowStart ∧
      (windowStart.addSeconds (t - 1)).numSeconds (anchor profile windowStart) =
        t - 1 - scheduleBase profile windowStart := by
  have aligned : (anchor profile windowStart).WholeSeconds windowStart ∨
      anchor profile windowStart ≤ windowStart ∨
      windowStart.addSeconds t ≤ anchor profile windowStart := by
    by_contra unaligned
    simp only [not_or, not_le] at unaligned
    exact sampled (Or.inr (Or.inl unaligned))
  refine ⟨DateTime.numSeconds_addSeconds windowStart _ t low.le aligned,
    DateTime.numSeconds_addSeconds windowStart _ (t - 1) (by omega)
      (aligned.imp_right (Or.imp_right (DateTime.addSeconds_pred_lt windowStart t).le.trans))⟩

theorem profileLimitAt_quiet :
    profileLimitAt profile (windowStart.addSeconds t) windowStart =
      profileLimitAt profile (windowStart.addSeconds (t - 1)) windowStart := by
  obtain ⟨rawNow, rawBefore⟩ := rawOffset_quiet low sampled
  have outside : t ∉ boundaries (profile.chargingSchedule.chargingSchedulePeriod.map (·.startPeriod))
      profile.chargingSchedule.duration duration (scheduleBase profile windowStart)
      (recurrencePeriod profile) := fun member => quiet (by
    simp only [candidateOffsets, List.mem_append]
    exact Or.inl (Or.inl member))
  have restart : wrapOffset (recurrencePeriod profile) (t - scheduleBase profile windowStart) = some 0 →
      0 ∈ profile.chargingSchedule.chargingSchedulePeriod.map (·.startPeriod) := by
    intro origin
    by_contra none
    refine sampled (Or.inr (Or.inr ⟨origin, fun period member zero => none ?_⟩))
    exact List.mem_map.mpr ⟨period, member, zero⟩
  have step := scheduleOffset_quiet (recurrencePeriod_pos profile) low high outside restart
  simp only [profileLimitAt, validFrom_quiet low high quiet sampled,
    validTo_quiet low high quiet, rawNow, rawBefore]
  rcases step with ⟨now, before⟩ | ⟨now, before, nowEq, beforeEq, same⟩
  · simp [now, before]
  · simp [nowEq, beforeEq, choosePeriod_congr _ same]

end Quiet

/-! ## The window -/

def limitAt (candidates : List ScopedProfile) (start : DateTime)
    (requestedUnit : Option ChargingRateUnitType) (t : Int) : Option (ℚ × Option Int) :=
  effectiveLimitAt candidates (start.addSeconds t) start (outputUnit candidates requestedUnit)

def reportedAt (schedule : ChargingSchedule) (t : Int) : Option ChargingSchedulePeriod :=
  (schedule.chargingSchedulePeriod.filter (·.startPeriod ≤ t)).getLast?

/-- No schedule is reported exactly when nothing limits the window, and a reported schedule carries
the limit and the phase count in force at every second. -/
def PointwiseFaithful (candidates : List ScopedProfile) (start : DateTime) (durationSecs : Int)
    (requestedUnit : Option ChargingRateUnitType) : Prop :=
  (computeComposite candidates start durationSecs requestedUnit = none ↔
    ∀ t, 0 ≤ t → t < durationSecs → limitAt candidates start requestedUnit t = none) ∧
  ∀ schedule, computeComposite candidates start durationSecs requestedUnit = some schedule →
    ∀ t, 0 ≤ t → t < durationSecs → ∀ l p,
      limitAt candidates start requestedUnit t = some (l, p) →
        ∃ period, reportedAt schedule t = some period ∧ period.limit = l ∧ period.numberPhases = p

/-- At every second that an unsampled change of some candidate falls on and that no boundary falls
on, nothing limits or the limit is the one most recently in force. -/
def UnsampledChangesKeepLimit (candidates : List ScopedProfile) (start : DateTime)
    (durationSecs : Int) (requestedUnit : Option ChargingRateUnitType) : Prop :=
  ∀ t, 0 < t → t < durationSecs → t ∉ boundaryOffsets candidates start durationSecs →
    (∃ c ∈ candidates, UnsampledChange c.profile start t) →
    ∀ v, limitAt candidates start requestedUnit t = some v →
      LatestBefore (limitAt candidates start requestedUnit) t v

theorem effectiveLimitAt_congr (candidates : List ScopedProfile) {now before : DateTime}
    (windowStart : DateTime) (unit : ChargingRateUnitType)
    (same : ∀ c ∈ candidates, profileLimitAt c.profile now windowStart =
      profileLimitAt c.profile before windowStart) :
    effectiveLimitAt candidates now windowStart unit =
      effectiveLimitAt candidates before windowStart unit := by
  have override : overrideLimitAt candidates now windowStart =
      overrideLimitAt candidates before windowStart := by
    unfold overrideLimitAt
    rw [List.filterMap_congr fun c member => by rw [same c member]]
  have ceiling : ceilingLimitAt candidates now windowStart =
      ceilingLimitAt candidates before windowStart := by
    unfold ceilingLimitAt
    rw [List.filterMap_congr fun c member => by rw [same c (List.mem_of_mem_filter member)]]
  rw [effectiveLimitAt, effectiveLimitAt, override, ceiling]

theorem mem_boundaryOffsets {candidates : List ScopedProfile} {start : DateTime} {duration t : Int} :
    t ∈ boundaryOffsets candidates start duration ↔
      t = 0 ∨ ∃ c ∈ candidates, t ∈ candidateOffsets c.profile start duration := by
  simp [boundaryOffsets]

theorem candidateOffsets_inside {profile : ChargingProfile} {start : DateTime} {duration t : Int}
    (member : t ∈ candidateOffsets profile start duration) : 0 < t ∧ t < duration := by
  simp only [candidateOffsets, List.mem_append] at member
  rcases member with (member | member) | member
  · exact boundaries_inside member
  · exact (mem_pushed.mp member).2
  · exact (mem_pushed.mp member).2

theorem boundaryOffsets_inside {candidates : List ScopedProfile} {start : DateTime}
    {duration t : Int} (positive : 0 < duration)
    (member : t ∈ boundaryOffsets candidates start duration) : 0 ≤ t ∧ t < duration := by
  rcases mem_boundaryOffsets.mp member with rfl | ⟨c, -, member⟩
  · exact ⟨le_rfl, positive⟩
  · have inside := candidateOffsets_inside member
    exact ⟨inside.1.le, inside.2⟩

theorem limitAt_quiet {candidates : List ScopedProfile} {start : DateTime} {duration t : Int}
    (requestedUnit : Option ChargingRateUnitType) (low : 0 < t) (high : t < duration)
    (quiet : t ∉ boundaryOffsets candidates start duration)
    (sampled : ¬∃ c ∈ candidates, UnsampledChange c.profile start t) :
    limitAt candidates start requestedUnit t = limitAt candidates start requestedUnit (t - 1) := by
  apply effectiveLimitAt_congr
  intro c member
  exact profileLimitAt_quiet low high
    (fun offset => quiet (mem_boundaryOffsets.mpr (Or.inr ⟨c, member, offset⟩)))
    (fun change => sampled ⟨c, member, change⟩)

/-! ## The reported schedule -/

def compositeRuns (candidates : List ScopedProfile) (start : DateTime) (durationSecs : Int)
    (requestedUnit : Option ChargingRateUnitType) : List (Int × ℚ × Option Int) :=
  coalesce (limitAt candidates start requestedUnit) (boundaryOffsets candidates start durationSecs)

theorem computeComposite_eq_none {candidates : List ScopedProfile} {start : DateTime}
    {durationSecs : Int} {requestedUnit : Option ChargingRateUnitType} (positive : 0 < durationSecs) :
    computeComposite candidates start durationSecs requestedUnit = none ↔
      compositeRuns candidates start durationSecs requestedUnit = [] := by
  have opened : ¬durationSecs ≤ 0 := not_le.mpr positive
  simp only [computeComposite, opened, if_false]
  change (if (List.map _ (compositeRuns candidates start durationSecs requestedUnit)).isEmpty = true
    then none else some _) = none ↔ _
  simp

theorem reportedAt_eq {candidates : List ScopedProfile} {start : DateTime} {durationSecs : Int}
    {requestedUnit : Option ChargingRateUnitType} {schedule : ChargingSchedule}
    (computed : computeComposite candidates start durationSecs requestedUnit = some schedule)
    (t : Int) (l : ℚ) (p : Option Int) :
    (∃ period, reportedAt schedule t = some period ∧ period.limit = l ∧ period.numberPhases = p) ↔
      heldAt (compositeRuns candidates start durationSecs requestedUnit) t = some (l, p) := by
  have periods : schedule.chargingSchedulePeriod =
      (compositeRuns candidates start durationSecs requestedUnit).map
        fun e => ⟨e.1, e.2.1, e.2.2⟩ := by
    simp only [computeComposite] at computed
    split_ifs at computed
    obtain rfl := Option.some.inj computed
    rfl
  rw [reportedAt, periods, getLast?_filter_map _ ChargingSchedulePeriod.startPeriod fun _ => rfl,
    heldAt]
  simp only [Option.map_eq_some_iff]
  constructor
  · rintro ⟨period, ⟨e, found, rfl⟩, rfl, rfl⟩
    exact ⟨e, found, rfl⟩
  · rintro ⟨e, found, held⟩
    exact ⟨_, ⟨e, found, rfl⟩, by rw [held], by rw [held]⟩

theorem computeComposite_faithful_iff (candidates : List ScopedProfile) (start : DateTime)
    (durationSecs : Int) (requestedUnit : Option ChargingRateUnitType) :
    PointwiseFaithful candidates start durationSecs requestedUnit ↔
      UnsampledChangesKeepLimit candidates start durationSecs requestedUnit := by
  rcases le_or_gt durationSecs 0 with closed | positive
  · -- an empty window: nothing is reported and nothing is promised
    have unreported : computeComposite candidates start durationSecs requestedUnit = none := by
      simp [computeComposite, closed]
    simp only [PointwiseFaithful, UnsampledChangesKeepLimit, unreported, true_iff, reduceCtorEq,
      false_implies, implies_true, and_true]
    exact ⟨fun _ t low high => by omega, fun _ t low high => by omega⟩
  let value := limitAt candidates start requestedUnit
  let points := boundaryOffsets candidates start durationSecs
  have inside : ∀ t ∈ points, 0 ≤ t ∧ t < durationSecs := fun t => boundaryOffsets_inside positive
  have sampling := coalesce_faithful_iff value points (sortDedup_sorted _)
    (mem_boundaryOffsets.mpr (Or.inl rfl)) (fun t member => (inside t member).1) durationSecs
    (fun t => ∃ c ∈ candidates, UnsampledChange c.profile start t)
    fun t low high quiet sampled => limitAt_quiet requestedUnit low high quiet sampled
  refine Iff.trans ?_ sampling
  change _ ↔ ∀ t, 0 ≤ t → t < durationSecs → ∀ v, value t = some v →
    heldAt (compositeRuns candidates start durationSecs requestedUnit) t = some v
  constructor
  · rintro ⟨unreported, reported⟩ t low high ⟨l, p⟩ here
    cases computed : computeComposite candidates start durationSecs requestedUnit with
    | none =>
        have nothing := unreported.mp computed t low high
        exact absurd (nothing.symm.trans here) (by simp)
    | some schedule => exact (reportedAt_eq computed t l p).mp (reported schedule computed t low high l p here)
  · intro held
    refine ⟨?_, fun schedule computed t low high l p here =>
      (reportedAt_eq computed t l p).mpr (held t low high _ here)⟩
    rw [computeComposite_eq_none positive]
    constructor
    · intro empty t low high
      cases here : value t with
      | none => exact here
      | some v => simpa [empty, heldAt] using held t low high v here
    · intro nothing
      refine (coalesce_eq_nil _ _).mpr fun t member => ?_
      exact nothing t (inside t member).1 (inside t member).2

def halfSecondProfile : ChargingProfile :=
  { chargingProfileId := 1, transactionId := none, stackLevel := 0
    chargingProfilePurpose := .txProfile, chargingProfileKind := .absolute, recurrencyKind := none
    validFrom := none, validTo := none
    chargingSchedule :=
      { duration := none, startSchedule := some ⟨500000000⟩, chargingRateUnit := .A
        chargingSchedulePeriod := [⟨0, 10, none⟩, ⟨5, 20, none⟩], minChargingRate := none } }

/-- The step to 20 A takes effect in second 6, a second after the only sample that looks for it, and
is not reported. -/
theorem computeComposite_not_faithful :
    ¬PointwiseFaithful [⟨true, halfSecondProfile⟩] ⟨0⟩ 10 none := by
  rintro ⟨-, reported⟩
  have computed : computeComposite [⟨true, halfSecondProfile⟩] ⟨0⟩ 10 none =
      some ⟨some 10, some ⟨0⟩, .A, [⟨0, 10, none⟩], none⟩ := by decide +kernel
  have here : limitAt [⟨true, halfSecondProfile⟩] ⟨0⟩ none 6 = some (20, none) := by decide +kernel
  obtain ⟨period, found, limit, -⟩ := reported _ computed 6 (by omega) (by omega) 20 none here
  obtain rfl : (⟨0, 10, none⟩ : ChargingSchedulePeriod) = period := by simpa [reportedAt] using found
  exact absurd limit (by decide)

end Ocpp.Composite
