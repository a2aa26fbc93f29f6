import Mathlib.Algebra.Order.Ring.Unbundled.Rat
import Ocpp.ChargePoint.MonitoringReports
import Ocpp.Library.Crossing
import Ocpp.Library.Text

/-!
# Monitors tripped by a write

The `SetVariables` handler of `lib.rs`: an entry that changes the `Actual` value of a variable queues the monitors
on it whose threshold it crosses, or whose delta it reaches. Numbers are read as the exact reals that their 64 bits
stand for. `parse::<f64>` is a parameter that gives the bits.
-/

namespace Ocpp.ChargePoint
open Library

variable (toLowercase : String → String) (parseF64 : List Char → Option UInt64)

/-- The number that the bits of an `f64` stand for, if it is finite. -/
def f64Value (bits : UInt64) : Option ℚ :=
  let exponent := bits.toNat / 2 ^ 52 % 2 ^ 11
  let fraction := bits.toNat % 2 ^ 52
  if exponent = 2047 then none
  else
    let significand : Nat := if exponent = 0 then fraction else 2 ^ 52 + fraction
    let magnitude : ℚ := significand * 2 ^ max exponent 1 / 2 ^ 1075
    some (if bits.toNat / 2 ^ 63 = 1 then -magnitude else magnitude)

def parseFiniteF64 (value : String) : Option ℚ :=
  (parseF64 (Text.trim value.toList)).bind f64Value

structure TrippedMonitor where
  id : Int
  kind : MonitorEnumType
  severity : Int
  component : ComponentType
  variable_ : VariableType
deriving DecidableEq

def MonitorEntry.toTripped (entry : MonitorEntry) : TrippedMonitor where
  id := entry.monitor.id
  kind := entry.monitor.kind
  severity := entry.monitor.severity
  component := entry.component
  variable_ := entry.variable_

def monitorWriteTrips (kind : MonitorEnumType) (value : UInt64) (prev next : ℚ) : Bool :=
  match f64Value value with
  -- two finite numbers are on one side of an infinite value and on none of a NaN, and no step is infinite
  | none => false
  | some value =>
      match kind with
      | .upperThreshold => decide (prev > value) != decide (next > value)
      | .lowerThreshold => decide (prev < value) != decide (next < value)
      | .delta => decide (|next - prev| ≥ |value|)
      | .periodic | .periodicClockAligned => false

structure SetVariableDataType where
  attributeType : Option AttributeEnumType
  attributeValue : String
  component : ComponentType
  variable_ : VariableType
deriving DecidableEq

structure SetVariableResultType where
  attributeStatus : SetVariableStatusEnumType
  component : ComponentType
  variable_ : VariableType
  attributeType : Option AttributeEnumType
deriving DecidableEq

/-- The command that has a `NotifyEvent` sent. -/
structure V201MonitorTrip where
  monitors : List TrippedMonitor
  actualValue : String
deriving DecidableEq

namespace V201DeviceModel

def monitorLookupKey (component variable_ : String) : VariableKey :=
  .fromRequest toLowercase ⟨component, none, none, none⟩ ⟨variable_, none, none⟩

/-- `iteration` is the order in which the map gives its monitors. -/
def monitorsTrippedByWrite (iteration : List (Σ _ : Int, MonitorEntry)) (component variable_ previous new : String) :
    List TrippedMonitor :=
  match parseFiniteF64 parseF64 previous, parseFiniteF64 parseF64 new with
  | some prev, some next =>
      let key := monitorLookupKey toLowercase component variable_
      let matches_ := (((iteration.map (·.2)).filter (·.key = key)).filter fun entry =>
        monitorWriteTrips entry.monitor.kind entry.monitor.value prev next).map (·.toTripped)
      sortByKey (·.id) matches_
  | _, _ => []

end V201DeviceModel

/-- The handler in the middle of a request: the results and trips so far, and the device model. -/
structure SetVariables where
  setVariableResult : List SetVariableResultType
  trips : List V201MonitorTrip
  model : V201DeviceModel

namespace SetVariables

/-- The monitors that a write with this answer trips, from the text of `Actual` before it. -/
def crossed (iteration : List (Σ _ : Int, MonitorEntry)) (data : SetVariableDataType)
    (attributeStatus : SetVariableStatusEnumType) (attribute_ : AttributeEnumType) (previous : Option String) :
    List TrippedMonitor :=
  let tookEffect := attributeStatus = .accepted ∨ attributeStatus = .rebootRequired
  if tookEffect ∧ attribute_ = .actual then
    match previous with
    | some prev =>
        if prev ≠ data.attributeValue then
          V201DeviceModel.monitorsTrippedByWrite toLowercase parseF64 iteration data.component.name
            data.variable_.name prev data.attributeValue
        else []
    | none => []
  else []

def setVariable (iteration : List (Σ _ : Int, MonitorEntry)) (s : SetVariables) (data : SetVariableDataType) :
    SetVariables :=
  let attribute_ := data.attributeType.getD .actual
  let previous :=
    if attribute_ = .actual then (s.model.get toLowercase data.component data.variable_ .actual).2 else none
  let (attributeStatus, model) := s.model.set toLowercase data.component data.variable_ attribute_ data.attributeValue
  let monitors := crossed toLowercase parseF64 iteration data attributeStatus attribute_ previous
  { setVariableResult :=
      s.setVariableResult ++ [⟨attributeStatus, data.component, data.variable_, data.attributeType⟩]
    trips := if monitors.isEmpty then s.trips else s.trips ++ [⟨monitors, data.attributeValue⟩]
    model }

/-- The entries of a request in their order, under one write lock. -/
def handle (iteration : List (Σ _ : Int, MonitorEntry)) (model : V201DeviceModel)
    (setVariableData : List SetVariableDataType) : SetVariables :=
  setVariableData.foldl (setVariable toLowercase parseF64 iteration) ⟨[], [], model⟩

end SetVariables

/-- The condition of the monitor holds between the two numbers. -/
def VariableMonitoringType.Crossed (monitor : VariableMonitoringType) (prev next : ℚ) : Prop :=
  ∃ value, f64Value monitor.value = some value ∧
    match monitor.kind with
    | .upperThreshold => Xor (value < prev) (value < next)
    | .lowerThreshold => Xor (prev < value) (next < value)
    | .delta => |value| ≤ |next - prev|
    | .periodic | .periodicClockAligned => False

/-- The entry has changed the text of the `Actual` value of its variable, from one number to another or the same. -/
def SetVariableDataType.Moved (data : SetVariableDataType) (before after : V201DeviceModel) (prev next : ℚ) : Prop :=
  ∃ previous new, previous ≠ new ∧
    before.get toLowercase data.component data.variable_ .actual = (.accepted, some previous) ∧
    after.get toLowercase data.component data.variable_ .actual = (.accepted, some new) ∧
    parseFiniteF64 parseF64 previous = some prev ∧ parseFiniteF64 parseF64 new = some next

/-- The trip names exactly the monitors on the written variable whose condition the write has met, each once. -/
structure TripsExactly (before after : V201DeviceModel) (data : SetVariableDataType)
    (attributeStatus : SetVariableStatusEnumType) (trip : Option V201MonitorTrip) : Prop where
  monitors : ∀ tripped, (∃ queued ∈ trip, tripped ∈ queued.monitors) ↔
    ∃ id entry prev next, before.monitors.lookup id = some entry ∧ entry.toTripped = tripped ∧
      entry.key = .fromRequest toLowercase data.component data.variable_ ∧
      data.Moved toLowercase parseF64 before after prev next ∧ entry.monitor.Crossed prev next
  once : ∀ queued ∈ trip, queued.monitors.Pairwise fun m m' => m.id < m'.id
  reported : ∀ queued ∈ trip, queued.monitors ≠ [] ∧ queued.actualValue = data.attributeValue
  applied : trip ≠ none → attributeStatus.Applies ∧ data.attributeType.getD .actual = .actual

variable {toLowercase parseF64}

theorem monitorWriteTrips_iff (monitor : VariableMonitoringType) (prev next : ℚ) :
    monitorWriteTrips monitor.kind monitor.value prev next ↔ monitor.Crossed prev next := by
  have opposite : ∀ p q : Prop, [Decidable p] → [Decidable q] → ((decide p != decide q) = true ↔ Xor p q) := by
    intro p q _ _
    by_cases p <;> by_cases q <;> simp_all [Xor]
  rw [monitorWriteTrips, VariableMonitoringType.Crossed]
  cases f64Value monitor.value with
  | none => simp
  | some value =>
      cases monitor.kind <;> simp [opposite, Xor]

namespace V201DeviceModel

variable {model : V201DeviceModel} {component : ComponentType} {variable_ : VariableType}
  {iteration : List (Σ _ : Int, MonitorEntry)}

theorem monitorLookupKey_stationWide
    (stationWide : (VariableKey.fromRequest toLowercase component variable_).StationWide) :
    monitorLookupKey toLowercase component.name variable_.name = .fromRequest toLowercase component variable_ := by
  have inside : ComponentKey.fromRequest toLowercase component = ⟨toLowercase component.name, none, none, none⟩ :=
    stationWide.1
  have instance_ : variable_.instance_.map toLowercase = none := stationWide.2
  rw [VariableKey.fromRequest, inside, instance_]
  rfl

theorem applies_exposed {attribute_ : AttributeEnumType} {value : String} :
    (model.set toLowercase component variable_ attribute_ value).1.Applies →
    (model.variables_.lookup (.fromRequest toLowercase component variable_)).isSome ∧
      ∃ previous, model.get toLowercase component variable_ attribute_ = (.accepted, some previous) := by
  fun_cases set toLowercase model component variable_ attribute_ value
  case case5 known key entry held exposed writable written =>
    refine fun _ => ⟨Option.isSome_of_eq_some held, ?_⟩
    have found : model.get toLowercase component variable_ attribute_ = _ := get_of_lookup (not_not.mp known) held
    have exposed := get_exposed (not_not.mp known) held exposed
    cases search : entry.attributes.find? (·.1 = attribute_) with
    | none =>
        rw [search] at found
        rw [found] at exposed
        cases exposed
    | some slot =>
        rw [search] at found
        exact ⟨slot.2, found⟩
  all_goals exact False.elim

theorem mem_monitorsTrippedByWrite (same : iteration.Perm model.monitors.entries) {previous new : String}
    {tripped : TrippedMonitor} :
    tripped ∈ monitorsTrippedByWrite toLowercase parseF64 iteration component.name variable_.name previous new ↔
      ∃ id entry prev next, model.monitors.lookup id = some entry ∧ entry.toTripped = tripped ∧
        entry.key = monitorLookupKey toLowercase component.name variable_.name ∧
        parseFiniteF64 parseF64 previous = some prev ∧ parseFiniteF64 parseF64 new = some next ∧
        entry.monitor.Crossed prev next := by
  rw [monitorsTrippedByWrite]
  cases parsed : parseFiniteF64 parseF64 previous with
  | none => simp
  | some prev =>
      cases parsed' : parseFiniteF64 parseF64 new with
      | none => simp
      | some next =>
          simp only [(sortByKey_perm _ _).mem_iff, List.mem_map, List.mem_filter, monitorWriteTrips_iff,
            decide_eq_true_iff, Option.some.injEq]
          constructor
          · rintro ⟨_, ⟨⟨⟨⟨id, entry⟩, member, rfl⟩, here⟩, crossed⟩, shown⟩
            have held := HashMap.mem_entries.mp (same.mem_iff.mp member)
            exact ⟨id, entry, prev, next, held, shown, here, rfl, rfl, crossed⟩
          · rintro ⟨id, entry, _, _, held, shown, here, rfl, rfl, crossed⟩
            have member := same.mem_iff.mpr (HashMap.mem_entries.mpr held)
            exact ⟨entry, ⟨⟨⟨⟨id, entry⟩, member, rfl⟩, here⟩, crossed⟩, shown⟩

theorem monitorsTrippedByWrite_ascending (inv : model.Watched toLowercase)
    (same : iteration.Perm model.monitors.entries) (name variableName previous new : String) :
    (monitorsTrippedByWrite toLowercase parseF64 iteration name variableName previous new).Pairwise
      fun m m' => m.id < m'.id := by
  rw [monitorsTrippedByWrite]
  split
  · dsimp only
    generalize sorted : sortByKey TrippedMonitor.id _ = tripped
    have distinct : (tripped.map (·.id)).Nodup := by
      rw [← sorted, ((sortByKey_perm _ _).map _).nodup_iff, List.map_map]
      exact (inv.ids_nodup same).sublist ((List.filter_sublist.trans List.filter_sublist).map _)
    have ascending : tripped.Pairwise fun m m' => m.id ≤ m'.id := by
      rw [← sorted]
      exact sortByKey_sorted _ _
    exact (ascending.and (List.pairwise_map.mp distinct)).imp fun ⟨le, ne⟩ => lt_of_le_of_ne le ne
  · exact List.Pairwise.nil

end V201DeviceModel

namespace SetVariables

variable {s : SetVariables} {iteration : List (Σ _ : Int, MonitorEntry)}

theorem applies_iff (status : SetVariableStatusEnumType) :
    status = .accepted ∨ status = .rebootRequired ↔ status.Applies := by
  cases status <;> simp [SetVariableStatusEnumType.Applies]

theorem tripsExactly_of_crossed {before after : V201DeviceModel} {data : SetVariableDataType}
    {attributeStatus : SetVariableStatusEnumType} {monitors : List TrippedMonitor}
    (exact_ : ∀ tripped, tripped ∈ monitors ↔
      ∃ id entry prev next, before.monitors.lookup id = some entry ∧ entry.toTripped = tripped ∧
        entry.key = .fromRequest toLowercase data.component data.variable_ ∧
        data.Moved toLowercase parseF64 before after prev next ∧ entry.monitor.Crossed prev next)
    (ascending : monitors.Pairwise fun m m' => m.id < m'.id)
    (applied : monitors ≠ [] → attributeStatus.Applies ∧ data.attributeType.getD .actual = .actual) :
    TripsExactly toLowercase parseF64 before after data attributeStatus
      (if monitors.isEmpty then none else some ⟨monitors, data.attributeValue⟩) := by
  cases monitors with
  | nil =>
      constructor
      · intro tripped
        rw [← exact_]
        simp
      · simp
      · simp
      · simp
  | cons first rest =>
      constructor
      · intro tripped
        rw [← exact_]
        simp
      · intro queued shown
        obtain rfl := Option.some.inj shown
        exact ascending
      · intro queued shown
        obtain rfl := Option.some.inj shown
        exact ⟨List.cons_ne_nil _ _, rfl⟩
      · exact fun _ => applied (List.cons_ne_nil _ _)

variable (toLowercase parseF64) in
theorem crossed_cases (iteration : List (Σ _ : Int, MonitorEntry)) (data : SetVariableDataType)
    (attributeStatus : SetVariableStatusEnumType) (attribute_ : AttributeEnumType) (previous : Option String) :
    (∃ prev, previous = some prev ∧ prev ≠ data.attributeValue ∧ attributeStatus.Applies ∧ attribute_ = .actual ∧
      crossed toLowercase parseF64 iteration data attributeStatus attribute_ previous =
        V201DeviceModel.monitorsTrippedByWrite toLowercase parseF64 iteration data.component.name
          data.variable_.name prev data.attributeValue) ∨
      ((attributeStatus.Applies → attribute_ = .actual → ∀ prev ∈ previous, prev = data.attributeValue) ∧
        crossed toLowercase parseF64 iteration data attributeStatus attribute_ previous = []) := by
  simp only [crossed]
  split_ifs with took
  · cases previous with
    | none => exact .inr ⟨by simp, rfl⟩
    | some prev =>
        dsimp only
        split_ifs with changed
        · exact .inl ⟨prev, rfl, changed, (applies_iff _).mp took.1, took.2, rfl⟩
        · exact .inr ⟨fun _ _ _ same => Option.some.inj same ▸ not_not.mp changed, rfl⟩
  · exact .inr ⟨fun applies actual => absurd ⟨(applies_iff _).mpr applies, actual⟩ took, rfl⟩

variable {data : SetVariableDataType} {attributeStatus : SetVariableStatusEnumType} {after : V201DeviceModel}

theorem moved_of_agrees {attribute_ : AttributeEnumType} {prev next : ℚ}
    (agrees : SetAgrees toLowercase s.model data.component data.variable_ attribute_ data.attributeValue
      attributeStatus after) (moved : data.Moved toLowercase parseF64 s.model after prev next) :
    attributeStatus.Applies ∧ attribute_ = .actual ∧ ∃ previous, previous ≠ data.attributeValue ∧
      s.model.get toLowercase data.component data.variable_ .actual = (.accepted, some previous) ∧
      parseFiniteF64 parseF64 previous = some prev ∧ parseFiniteF64 parseF64 data.attributeValue = some next := by
  obtain ⟨previous, new, changed, before, written, parsed, parsed'⟩ := moved
  by_cases applies : attributeStatus.Applies
  · by_cases actual : attribute_ = .actual
    · subst actual
      have texts := (agrees.written applies _ _ rfl).symm.trans written
      obtain rfl := Option.some.inj (Prod.mk.inj texts).2
      exact ⟨applies, rfl, previous, changed, before, parsed, parsed'⟩
    · rw [agrees.others _ _ _ (.inr (Ne.symm actual)), before] at written
      exact absurd (Option.some.inj (Prod.mk.inj written).2) changed
  · rw [agrees.unchanged applies, before] at written
    exact absurd (Option.some.inj (Prod.mk.inj written).2) changed

theorem mem_crossed (inv : s.model.Watched toLowercase) (same : iteration.Perm s.model.monitors.entries)
    {attribute_ : AttributeEnumType}
    (written : s.model.set toLowercase data.component data.variable_ attribute_ data.attributeValue =
      (attributeStatus, after)) (tripped : TrippedMonitor) :
    tripped ∈ crossed toLowercase parseF64 iteration data attributeStatus attribute_
        (if attribute_ = .actual then (s.model.get toLowercase data.component data.variable_ .actual).2 else none) ↔
      ∃ id entry prev next, s.model.monitors.lookup id = some entry ∧ entry.toTripped = tripped ∧
        entry.key = .fromRequest toLowercase data.component data.variable_ ∧
        data.Moved toLowercase parseF64 s.model after prev next ∧ entry.monitor.Crossed prev next := by
  have agrees : SetAgrees toLowercase s.model data.component data.variable_ attribute_ data.attributeValue
      (s.model.set toLowercase data.component data.variable_ attribute_ data.attributeValue).1
      (s.model.set toLowercase data.component data.variable_ attribute_ data.attributeValue).2 :=
    s.model.set_agrees ..
  rw [written] at agrees
  obtain ⟨previous, before, changed, applies, rfl, found⟩ | ⟨unchanged, silent⟩ := crossed_cases
    toLowercase parseF64 iteration data attributeStatus attribute_
    (if attribute_ = .actual then (s.model.get toLowercase data.component data.variable_ .actual).2 else none)
  · have applied : (s.model.set toLowercase data.component data.variable_ .actual data.attributeValue).1.Applies := by
      rw [written]
      exact applies
    obtain ⟨known, _, exposed⟩ := V201DeviceModel.applies_exposed applied
    rw [if_pos rfl, exposed] at before
    obtain rfl := Option.some.inj before
    have lookupKey := V201DeviceModel.monitorLookupKey_stationWide (inv.stationWide _ known)
    rw [found, V201DeviceModel.mem_monitorsTrippedByWrite same, lookupKey]
    constructor
    · rintro ⟨id, entry, prev, next, held, shown, here, parsed, parsed', crosses⟩
      exact ⟨id, entry, prev, next, held, shown, here,
        ⟨_, _, changed, exposed, agrees.written applies _ _ rfl, parsed, parsed'⟩, crosses⟩
    · rintro ⟨id, entry, prev, next, held, shown, here, moved, crosses⟩
      obtain ⟨-, -, _, -, before, parsed, parsed'⟩ := moved_of_agrees agrees moved
      rw [exposed] at before
      obtain rfl := Option.some.inj (Prod.mk.inj before).2
      exact ⟨id, entry, prev, next, held, shown, here, parsed, parsed', crosses⟩
  · rw [silent]
    simp only [List.not_mem_nil, false_iff, not_exists]
    rintro id entry prev next ⟨-, -, -, moved, -⟩
    obtain ⟨applies, rfl, previous, changed, before, -, -⟩ := moved_of_agrees agrees moved
    apply changed
    apply unchanged applies rfl
    rw [if_pos rfl, before]
    rfl

theorem setVariable_trips (inv : s.model.Watched toLowercase) (same : iteration.Perm s.model.monitors.entries)
    (data : SetVariableDataType) : ∃ attributeStatus trip,
      (setVariable toLowercase parseF64 iteration s data).setVariableResult =
        s.setVariableResult ++ [⟨attributeStatus, data.component, data.variable_, data.attributeType⟩] ∧
      (setVariable toLowercase parseF64 iteration s data).trips = s.trips ++ trip.toList ∧
      TripsExactly toLowercase parseF64 s.model (setVariable toLowercase parseF64 iteration s data).model data
        attributeStatus trip := by
  simp only [setVariable]
  cases written : s.model.set toLowercase data.component data.variable_ (data.attributeType.getD .actual)
    data.attributeValue with
  | mk attributeStatus after =>
      refine ⟨attributeStatus, _, rfl, ?_, tripsExactly_of_crossed (mem_crossed inv same written) ?_ ?_⟩
      · split_ifs <;> simp
      · obtain ⟨_, -, -, -, -, found⟩ | ⟨-, silent⟩ := crossed_cases toLowercase parseF64 iteration data
          attributeStatus (data.attributeType.getD .actual) _
        · rw [found]
          exact V201DeviceModel.monitorsTrippedByWrite_ascending inv same _ _ _ _
        · rw [silent]
          exact List.Pairwise.nil
      · obtain ⟨_, -, -, applies, actual, -⟩ | ⟨-, silent⟩ := crossed_cases toLowercase parseF64 iteration data
          attributeStatus (data.attributeType.getD .actual) _
        · exact fun _ => ⟨applies, actual⟩
        · exact fun some_ => absurd silent some_

theorem setVariable_model (s : SetVariables) (iteration : List (Σ _ : Int, MonitorEntry)) (data : SetVariableDataType) :
    (setVariable toLowercase parseF64 iteration s data).model =
      (s.model.set toLowercase data.component data.variable_ (data.attributeType.getD .actual)
        data.attributeValue).2 := rfl

theorem setVariable_monitors (s : SetVariables) (iteration : List (Σ _ : Int, MonitorEntry))
    (data : SetVariableDataType) :
    (setVariable toLowercase parseF64 iteration s data).model.monitors = s.model.monitors := by
  rw [setVariable_model]
  exact (s.model.set_agrees _ _ _ _).monitors

variable {model : V201DeviceModel}

theorem handle_concat (entries : List SetVariableDataType) (data : SetVariableDataType) :
    handle toLowercase parseF64 iteration model (entries ++ [data]) =
      setVariable toLowercase parseF64 iteration (handle toLowercase parseF64 iteration model entries) data := by
  rw [handle, handle, List.foldl_append]
  rfl

theorem handle_watched (inv : model.Watched toLowercase) (entries : List SetVariableDataType) :
    (handle toLowercase parseF64 iteration model entries).model.Watched toLowercase ∧
      (handle toLowercase parseF64 iteration model entries).model.monitors = model.monitors := by
  induction entries using List.reverseRecOn with
  | nil => exact ⟨inv, rfl⟩
  | append_singleton entries data ih =>
      rw [handle_concat, setVariable_monitors]
      exact ⟨ih.1.set _ _ _ _, ih.2⟩

theorem tripsExactly_unique {before after : V201DeviceModel} {data data' : SetVariableDataType}
    {attributeStatus attributeStatus' : SetVariableStatusEnumType} {trip trip' : Option V201MonitorTrip}
    (exact_ : TripsExactly toLowercase parseF64 before after data attributeStatus trip)
    (exact' : TripsExactly toLowercase parseF64 before after data' attributeStatus' trip')
    (component : data.component = data'.component) (variable_ : data.variable_ = data'.variable_)
    (written : data.attributeValue = data'.attributeValue) : trip = trip' := by
  have members : ∀ tripped, (∃ queued ∈ trip, tripped ∈ queued.monitors) ↔
      ∃ queued ∈ trip', tripped ∈ queued.monitors := by
    intro tripped
    rw [exact_.monitors, exact'.monitors]
    simp only [SetVariableDataType.Moved, component, variable_]
  have nonempty : ∀ {queued : V201MonitorTrip}, queued.monitors ≠ [] → ∃ tripped, tripped ∈ queued.monitors :=
    fun some_ => List.exists_mem_of_ne_nil _ some_
  cases trip with
  | none =>
      cases trip' with
      | none => rfl
      | some queued' =>
          obtain ⟨tripped, member⟩ := nonempty (exact'.reported queued' rfl).1
          obtain ⟨_, absent, -⟩ := (members tripped).mpr ⟨queued', rfl, member⟩
          cases absent
  | some queued =>
      cases trip' with
      | none =>
          obtain ⟨tripped, member⟩ := nonempty (exact_.reported queued rfl).1
          obtain ⟨_, absent, -⟩ := (members tripped).mp ⟨queued, rfl, member⟩
          cases absent
      | some queued' =>
          have ascending := exact_.once queued rfl
          have ascending' := exact'.once queued' rfl
          have nodup : ∀ {monitors : List TrippedMonitor}, (monitors.Pairwise fun m m' => m.id < m'.id) →
              monitors.Nodup :=
            fun pairwise => pairwise.imp fun below same => absurd (same ▸ below) (lt_irrefl _)
          have perm : queued.monitors.Perm queued'.monitors := by
            rw [List.perm_ext_iff_of_nodup (nodup ascending) (nodup ascending')]
            intro tripped
            simpa using members tripped
          have monitors : queued.monitors = queued'.monitors :=
            perm.eq_of_pairwise (fun _ _ _ _ below above => absurd below (lt_asymm above)) ascending ascending'
          have values : queued.actualValue = queued'.actualValue := by
            rw [(exact_.reported queued rfl).2, (exact'.reported queued' rfl).2, written]
          cases queued
          cases queued'
          simp_all only

/-- Of the entries of a request each adds its own trip, if it has one. -/
theorem handle_trips (inv : model.Watched toLowercase) (same : iteration.Perm model.monitors.entries)
    (entries : List SetVariableDataType) (data : SetVariableDataType) :
    ∃ attributeStatus trip,
      (handle toLowercase parseF64 iteration model (entries ++ [data])).setVariableResult =
        (handle toLowercase parseF64 iteration model entries).setVariableResult ++
          [⟨attributeStatus, data.component, data.variable_, data.attributeType⟩] ∧
      (handle toLowercase parseF64 iteration model (entries ++ [data])).trips =
        (handle toLowercase parseF64 iteration model entries).trips ++ trip.toList ∧
      TripsExactly toLowercase parseF64 (handle toLowercase parseF64 iteration model entries).model
        (handle toLowercase parseF64 iteration model (entries ++ [data])).model data attributeStatus trip := by
  obtain ⟨watched, monitors⟩ : (handle toLowercase parseF64 iteration model entries).model.Watched toLowercase ∧
      (handle toLowercase parseF64 iteration model entries).model.monitors = model.monitors :=
    handle_watched inv entries
  rw [handle_concat]
  exact setVariable_trips watched (monitors ▸ same) data

end SetVariables

/-! ## Runs -/

namespace Monitoring

variable (toLowercase parseF64)

def trip (s : Monitoring) : Action → Option V201MonitorTrip
  | .set component variable_ attribute_ value =>
      (SetVariables.setVariable toLowercase parseF64 s.model.monitors.entries ⟨[], [], s.model⟩
        ⟨some attribute_, value, component, variable_⟩).trips.head?
  | _ => none

section

variable (component : ComponentType) (variable_ : VariableType)

/-- The text that a step writes as the `Actual` value of the variable. -/
def acceptedWrite (s : Monitoring) : Action → Option String
  | .set component' variable' attribute_ value =>
      let attributeStatus := (s.model.set toLowercase component' variable' attribute_ value).1
      if VariableKey.fromRequest toLowercase component' variable' = .fromRequest toLowercase component variable_ ∧
          attribute_ = .actual ∧ (attributeStatus = .accepted ∨ attributeStatus = .rebootRequired) then some value
      else none
  | _ => none

/-- The monitor is on the variable, with one kind and value, and what is written to the variable is a number. -/
structure Steady (id : Int) (kind : MonitorEnumType) (value : UInt64) (s : Monitoring) (action : Action) : Prop where
  installed : ∃ entry, s.model.monitors.lookup id = some entry ∧
    entry.key = .fromRequest toLowercase component variable_ ∧ entry.monitor.kind = kind ∧ entry.monitor.value = value
  unseeded : ∀ component' variable' attribute_ text policy,
    action = .seed component' variable' attribute_ text policy →
    V201DeviceModel.monitorLookupKey toLowercase component' variable' ≠ .fromRequest toLowercase component variable_
  numeric : ∀ text ∈ acceptedWrite toLowercase component variable_ s action, (parseFiniteF64 parseF64 text).isSome

/-- The `Actual` value of the variable is a text of the number. -/
def Reads (s : Monitoring) (text : String) (v : ℚ) : Prop :=
  s.model.get toLowercase component variable_ .actual = (.accepted, some text) ∧
    parseFiniteF64 parseF64 text = some v

end

/-- The number is in the alerting band of a threshold. -/
def beyond (kind : MonitorEnumType) (x v : ℚ) : Bool :=
  match kind with
  | .upperThreshold => v > x
  | .lowerThreshold => v < x
  | _ => false

def names (id : Int) (trip : V201MonitorTrip) : Bool :=
  trip.monitors.any (·.id = id)

variable {toLowercase parseF64} {s t : Monitoring} {component : ComponentType} {variable_ : VariableType}
  {id : Int} {kind : MonitorEnumType} {value : UInt64} {x v : ℚ}

theorem names_iff {before after : V201DeviceModel} {data : SetVariableDataType}
    {attributeStatus : SetVariableStatusEnumType} {trip : Option V201MonitorTrip} {entry : MonitorEntry}
    (exact_ : TripsExactly toLowercase parseF64 before after data attributeStatus trip)
    (inv : before.Watched toLowercase) (held : before.monitors.lookup id = some entry) :
    (∃ queued ∈ trip, names id queued) ↔ entry.key = .fromRequest toLowercase data.component data.variable_ ∧
      ∃ prev next, data.Moved toLowercase parseF64 before after prev next ∧ entry.monitor.Crossed prev next := by
  constructor
  · rintro ⟨queued, shown, named⟩
    obtain ⟨tripped, member, numbered⟩ := List.any_eq_true.mp named
    obtain ⟨id', entry', prev, next, held', rfl, here, moved, crossed⟩ :=
      (exact_.monitors tripped).mp ⟨queued, shown, member⟩
    have same : id' = id := (inv.watches id' entry' held').numbered.symm.trans (of_decide_eq_true numbered)
    rw [same, held] at held'
    obtain rfl := Option.some.inj held'
    exact ⟨here, prev, next, moved, crossed⟩
  · rintro ⟨here, prev, next, moved, crossed⟩
    obtain ⟨queued, shown, member⟩ :=
      (exact_.monitors entry.toTripped).mpr ⟨id, entry, prev, next, held, rfl, here, moved, crossed⟩
    exact ⟨queued, shown, List.any_eq_true.mpr
      ⟨_, member, decide_eq_true (inv.watches id entry held).numbered⟩⟩

theorem crossed_iff_beyond {monitor : VariableMonitoringType} (valued : f64Value monitor.value = some x)
    (threshold : monitor.kind = .upperThreshold ∨ monitor.kind = .lowerThreshold) (prev next : ℚ) :
    monitor.Crossed prev next ↔ beyond monitor.kind x prev ≠ beyond monitor.kind x next := by
  have opposite : ∀ p q : Prop, [Decidable p] → [Decidable q] → (Xor p q ↔ decide p ≠ decide q) := by
    intro p q _ _
    by_cases p <;> by_cases q <;> simp_all [Xor]
  rw [VariableMonitoringType.Crossed, valued]
  obtain upper | lower := threshold
  · simp [upper, beyond, opposite]
  · simp [lower, beyond, opposite]

variable (parseF64) in
theorem trip_set (inv : s.model.Watched toLowercase) (component' : ComponentType) (variable' : VariableType)
    (attribute_ : AttributeEnumType) (text : String) : ∃ attributeStatus,
      TripsExactly toLowercase parseF64 s.model (s.model.set toLowercase component' variable' attribute_ text).2
        ⟨some attribute_, text, component', variable'⟩ attributeStatus
        (trip toLowercase parseF64 s (.set component' variable' attribute_ text)) := by
  obtain ⟨attributeStatus, queued, -, trips, exact_⟩ := SetVariables.setVariable_trips (s := ⟨[], [], s.model⟩) inv
    (.refl _) ⟨some attribute_, text, component', variable'⟩
  have same : trip toLowercase parseF64 s (.set component' variable' attribute_ text) = queued := by
    rw [trip, trips]
    cases queued <;> rfl
  rw [same]
  exact ⟨attributeStatus, exact_⟩

theorem acceptedWrite_set {component' : ComponentType} {variable' : VariableType} {attribute_ : AttributeEnumType}
    {text : String}
    (here : VariableKey.fromRequest toLowercase component' variable' = .fromRequest toLowercase component variable_)
    (actual : attribute_ = .actual)
    (applies : (s.model.set toLowercase component' variable' attribute_ text).1.Applies) :
    acceptedWrite toLowercase component variable_ s (.set component' variable' attribute_ text) = some text :=
  if_pos ⟨here, actual, (SetVariables.applies_iff _).mpr applies⟩

theorem get_of_variables {after model : V201DeviceModel} (variables_ : after.variables_ = model.variables_)
    (components : after.components = model.components) :
    after.get toLowercase component variable_ .actual = model.get toLowercase component variable_ .actual := by
  rw [V201DeviceModel.get, V201DeviceModel.get, variables_, components]

theorem get_of_key {model : V201DeviceModel} {component' : ComponentType} {variable' : VariableType}
    (same : VariableKey.fromRequest toLowercase component' variable' = .fromRequest toLowercase component variable_) :
    model.get toLowercase component' variable' .actual = model.get toLowercase component variable_ .actual := by
  have components : ComponentKey.fromRequest toLowercase component' = .fromRequest toLowercase component :=
    congrArg VariableKey.component same
  rw [V201DeviceModel.get, V201DeviceModel.get, components, same]

theorem get_installMonitors (data : List SetMonitoringDataType) :
    (data.foldl (install toLowercase) s).model.get toLowercase component variable_ .actual =
      s.model.get toLowercase component variable_ .actual := by
  induction data generalizing s with
  | nil => rfl
  | cons data rest ih =>
      obtain ⟨variables_, components⟩ := s.model.installMonitor_variables toLowercase data
      rw [List.foldl_cons, ih]
      exact get_of_variables variables_ components

theorem get_seed {text : String} {component' variable' value' : String} {attribute_ : AttributeEnumType}
    {policy : WritePolicy}
    (other : V201DeviceModel.monitorLookupKey toLowercase component' variable' ≠
      .fromRequest toLowercase component variable_)
    (reads : s.model.get toLowercase component variable_ .actual = (.accepted, some text)) :
    (s.model.seedStationVariable toLowercase component' variable' attribute_ value' policy).get toLowercase component
      variable_ .actual = (.accepted, some text) := by
  have known : ComponentKey.fromRequest toLowercase component ∈ s.model.components := by
    by_contra unknown
    rw [V201DeviceModel.get, if_pos unknown] at reads
    cases reads
  have known' : ComponentKey.fromRequest toLowercase component ∈
      (s.model.seedStationVariable toLowercase component' variable' attribute_ value' policy).components :=
    Finset.mem_insert_of_mem known
  have kept : (s.model.seedStationVariable toLowercase component' variable' attribute_ value' policy).variables_.lookup
      (.fromRequest toLowercase component variable_) =
        s.model.variables_.lookup (.fromRequest toLowercase component variable_) :=
    (HashMap.lookup_insert ..).trans (if_neg (Ne.symm other))
  rw [V201DeviceModel.get, if_neg (not_not.mpr known)] at reads
  rw [V201DeviceModel.get, if_neg (not_not.mpr known'), kept]
  exact reads

variable {action : Action} {text : String}

theorem step_unwritten (inv : s.model.Watched toLowercase)
    (steady : Steady toLowercase parseF64 component variable_ id kind value s action)
    (stepped : step toLowercase s action = some t) (reads : Reads toLowercase parseF64 component variable_ s text v)
    (unwritten : acceptedWrite toLowercase component variable_ s action = none) :
    Reads toLowercase parseF64 component variable_ t text v ∧
      ¬ ∃ queued ∈ trip toLowercase parseF64 s action, names id queued := by
  obtain ⟨texts, parsed⟩ := reads
  cases action with
  | seed component' variable' attribute_ value' policy =>
      obtain rfl := Option.some.inj stepped
      exact ⟨⟨get_seed (steady.unseeded _ _ _ _ _ rfl) texts, parsed⟩, by simp [trip]⟩
  | set component' variable' attribute_ value' =>
      obtain rfl := Option.some.inj stepped
      have agrees : SetAgrees toLowercase s.model component' variable' attribute_ value'
          (s.model.set toLowercase component' variable' attribute_ value').1
          (s.model.set toLowercase component' variable' attribute_ value').2 := s.model.set_agrees ..
      refine ⟨⟨?_, parsed⟩, ?_⟩
      · by_cases applies : (s.model.set toLowercase component' variable' attribute_ value').1.Applies
        · dsimp only
          rw [agrees.others, texts]
          by_contra written
          obtain ⟨here, actual⟩ := not_or.mp written
          rw [acceptedWrite_set (not_not.mp here).symm (not_not.mp actual).symm applies] at unwritten
          cases unwritten
        · dsimp only
          rw [agrees.unchanged applies, texts]
      · obtain ⟨attributeStatus, exact_⟩ := trip_set parseF64 inv component' variable' attribute_ value'
        obtain ⟨entry, held, watched, -, -⟩ := steady.installed
        rw [names_iff exact_ inv held]
        rintro ⟨here, prev, next, moved, -⟩
        obtain ⟨applies, actual, -⟩ := SetVariables.moved_of_agrees (s := ⟨[], [], s.model⟩) agrees moved
        rw [acceptedWrite_set (here.symm.trans watched) actual applies] at unwritten
        cases unwritten
  | installMonitors data =>
      obtain rfl := Option.some.inj stepped
      refine ⟨⟨?_, parsed⟩, by simp [trip]⟩
      rw [get_installMonitors, texts]
  | clearMonitors ids =>
      obtain rfl := Option.some.inj stepped
      obtain ⟨monitors, cleared, -⟩ := s.model.clearMonitors_model ids
      have same : (s.clear ids).model = { s.model with monitors := monitors } := cleared
      refine ⟨⟨?_, parsed⟩, by simp [trip]⟩
      rw [same]
      exact texts

theorem step_written (inv : s.model.Watched toLowercase) (valued : f64Value value = some x)
    (threshold : kind = .upperThreshold ∨ kind = .lowerThreshold)
    (steady : Steady toLowercase parseF64 component variable_ id kind value s action)
    (stepped : step toLowercase s action = some t) (reads : Reads toLowercase parseF64 component variable_ s text v)
    {written : String} (accepted : acceptedWrite toLowercase component variable_ s action = some written) :
    ∃ w, Reads toLowercase parseF64 component variable_ t written w ∧
      ((∃ queued ∈ trip toLowercase parseF64 s action, names id queued) ↔ beyond kind x v ≠ beyond kind x w) ∧
      ∀ queued ∈ trip toLowercase parseF64 s action, queued.actualValue = written := by
  obtain ⟨w, parsed'⟩ := Option.isSome_iff_exists.mp (steady.numeric written accepted)
  obtain ⟨texts, parsed⟩ := reads
  cases action with
  | set component' variable' attribute_ value' =>
      obtain rfl := Option.some.inj stepped
      obtain ⟨⟨here, actual, took⟩, same⟩ := Option.ite_none_right_eq_some.mp accepted
      obtain rfl := Option.some.inj same
      subst actual
      have agrees : SetAgrees toLowercase s.model component' variable' .actual value'
          (s.model.set toLowercase component' variable' .actual value').1
          (s.model.set toLowercase component' variable' .actual value').2 := s.model.set_agrees ..
      have applies := (SetVariables.applies_iff _).mp took
      have texts' := agrees.written applies component variable_ here.symm
      obtain ⟨attributeStatus, exact_⟩ := trip_set parseF64 inv component' variable' .actual value'
      obtain ⟨entry, held, watched, kinds, values⟩ := steady.installed
      have crossed := crossed_iff_beyond (values ▸ valued) (kinds ▸ threshold) v w
      rw [kinds] at crossed
      refine ⟨w, ⟨texts', parsed'⟩, ?_, fun queued shown => (exact_.reported queued shown).2⟩
      rw [names_iff exact_ inv held, ← crossed]
      have before := (get_of_key here).trans texts
      constructor
      · rintro ⟨-, prev, next, moved, crosses⟩
        obtain ⟨-, -, previous, -, texts'', prevs, nexts⟩ :=
          SetVariables.moved_of_agrees (s := ⟨[], [], s.model⟩) agrees moved
        obtain rfl := Option.some.inj (Prod.mk.inj (before.symm.trans texts'')).2
        obtain rfl := Option.some.inj (parsed.symm.trans prevs)
        obtain rfl := Option.some.inj (parsed'.symm.trans nexts)
        exact crosses
      · intro crosses
        refine ⟨watched.trans here.symm, v, w, ⟨text, value', ?_, before, ?_, parsed, parsed'⟩, crosses⟩
        · rintro rfl
          obtain rfl := Option.some.inj (parsed.symm.trans parsed')
          exact crossed.mp crosses rfl
        · exact agrees.written applies _ _ rfl
  | seed => cases accepted
  | installMonitors => cases accepted
  | clearMonitors => cases accepted

theorem filter_names_eq_nil {queued : Option V201MonitorTrip} (silent : ¬ ∃ trip ∈ queued, names id trip) :
    queued.toList.filter (names id) = [] := by
  rw [List.filter_eq_nil_iff]
  intro trip member named
  exact silent ⟨trip, Option.mem_toList.mp member, named⟩

/-- Along a run the trips of the monitor are the crossings of the values that are written. -/
theorem trips_crossings {actions : List Action} (inv : s.model.Watched toLowercase) (valued : f64Value value = some x)
    (threshold : kind = .upperThreshold ∨ kind = .lowerThreshold)
    (steady : Along (step toLowercase) (Steady toLowercase parseF64 component variable_ id kind value) s actions)
    (reads : Reads toLowercase parseF64 component variable_ s text v) : ∃ vs : List ℚ,
      (collect (step toLowercase) (acceptedWrite toLowercase component variable_) s actions).map
        (parseFiniteF64 parseF64) = vs.map some ∧
      ((collect (step toLowercase) (trip toLowercase parseF64) s actions).filter (names id)).map
        (fun queued => parseFiniteF64 parseF64 queued.actualValue) = (crossings (beyond kind x) v vs).map some := by
  induction actions generalizing s text v with
  | nil => exact ⟨[], rfl, rfl⟩
  | cons action rest ih =>
      obtain ⟨here, later⟩ := steady
      cases stepped : step toLowercase s action with
      | none => cases action <;> cases stepped
      | some t =>
          have inv' := watched_step inv stepped
          rw [collect_cons stepped, collect_cons stepped, List.map_append, List.filter_append, List.map_append]
          cases accepted : acceptedWrite toLowercase component variable_ s action with
          | none =>
              obtain ⟨reads', silent⟩ := step_unwritten inv here stepped reads accepted
              obtain ⟨vs, writes, trips⟩ := ih inv' (later t stepped) reads'
              rw [filter_names_eq_nil silent]
              exact ⟨vs, by simpa using writes, trips⟩
          | some written =>
              obtain ⟨w, reads', crossed, reported⟩ := step_written inv valued threshold here stepped reads accepted
              obtain ⟨vs, writes, trips⟩ := ih inv' (later t stepped) reads'
              refine ⟨w :: vs, ?_, ?_⟩
              · rw [writes]
                simp [reads'.2]
              · rw [trips, crossings]
                split_ifs with same
                · rw [filter_names_eq_nil fun named => crossed.mp named same]
                  exact List.nil_append _
                · obtain ⟨queued, shown, named⟩ := crossed.mpr same
                  rw [Option.mem_def.mp shown, Option.toList_some, List.filter_cons_of_pos named, List.filter_nil,
                    List.map_singleton, reported queued shown, reads'.2]
                  rfl

end Monitoring

def SetVariableDataType.action (data : SetVariableDataType) : Monitoring.Action :=
  .set data.component data.variable_ (data.attributeType.getD .actual) data.attributeValue

namespace Monitoring

variable {s : Monitoring}

theorem setVariable_trip {iteration : List (Σ _ : Int, MonitorEntry)} (inv : s.model.Watched toLowercase)
    (same : iteration.Perm s.model.monitors.entries) (results : List SetVariableResultType)
    (trips : List V201MonitorTrip) (data : SetVariableDataType) :
    (SetVariables.setVariable toLowercase parseF64 iteration ⟨results, trips, s.model⟩ data).trips =
      trips ++ (trip toLowercase parseF64 s data.action).toList := by
  obtain ⟨_, queued, -, appended, exact_⟩ :=
    SetVariables.setVariable_trips (s := ⟨results, trips, s.model⟩) inv same data
  obtain ⟨_, exact'⟩ := trip_set parseF64 inv data.component data.variable_ (data.attributeType.getD .actual)
    data.attributeValue
  rw [appended, SetVariables.tripsExactly_unique exact_ exact' rfl rfl rfl]
  rfl

/-- The trips of a request are those of the run of its writes, whatever the order of the map. -/
theorem handle_collect {iteration : List (Σ _ : Int, MonitorEntry)} (inv : s.model.Watched toLowercase)
    (same : iteration.Perm s.model.monitors.entries) (entries : List SetVariableDataType) :
    (SetVariables.handle toLowercase parseF64 iteration s.model entries).trips =
      collect (step toLowercase) (trip toLowercase parseF64) s (entries.map (·.action)) := by
  have folded : ∀ (entries : List SetVariableDataType) (s : Monitoring) (results : List SetVariableResultType)
      (trips : List V201MonitorTrip), s.model.Watched toLowercase → iteration.Perm s.model.monitors.entries →
      (entries.foldl (SetVariables.setVariable toLowercase parseF64 iteration) ⟨results, trips, s.model⟩).trips =
        trips ++ collect (step toLowercase) (trip toLowercase parseF64) s (entries.map (·.action)) := by
    intro entries
    induction entries with
    | nil =>
        intro s results trips _ _
        exact (List.append_nil trips).symm
    | cons data rest ih =>
        intro s results trips inv same
        have stepped : step toLowercase s data.action = some { s with model := (s.model.set toLowercase data.component
            data.variable_ (data.attributeType.getD .actual) data.attributeValue).2 } := rfl
        have monitors : (s.model.set toLowercase data.component data.variable_ (data.attributeType.getD .actual)
            data.attributeValue).2.monitors = s.model.monitors := (s.model.set_agrees ..).monitors
        rw [List.map_cons, collect_cons stepped, List.foldl_cons, ← List.append_assoc,
          ← setVariable_trip inv same results trips data]
        exact ih _ _ _ (watched_step inv stepped) (monitors ▸ same)
  exact (folded entries s [] [] inv same).trans (List.nil_append _)

def numerals : List Char → Option UInt64
  | ['0'] => some 0
  | ['5'] => some 0x4014000000000000
  | ['9'] => some 0x4022000000000000
  | _ => none

def writePower (value : String) : SetVariableDataType :=
  ⟨none, value, ⟨"controller", none, none, none⟩, ⟨"power", none, none⟩⟩

/-- A threshold at 5 and a delta of 0 on one variable, whose value is 0. -/
def watchedPower : List Action :=
  [.seed "Controller" "Power" .actual "0" ⟨false, false⟩,
    .installMonitors [⟨none, none, 0x4014000000000000, .upperThreshold, 5, ⟨"Controller", none, none, none⟩,
        ⟨"Power", none, none⟩⟩,
      ⟨none, none, 0, .delta, 5, ⟨"Controller", none, none, none⟩, ⟨"Power", none, none⟩⟩]]

theorem watchedPower_steady {s : Monitoring} (ran : run (step lowered) new watchedPower = some s) :
    Along (step lowered) (Steady lowered numerals ⟨"Controller", none, none, none⟩ ⟨"Power", none, none⟩ 1
      .upperThreshold 0x4014000000000000) s (["9", "5", "9"].map fun value => (writePower value).action) := by
  obtain rfl := Option.some.inj ran
  have numeric : ∀ value ∈ ["9", "5", "9"], (parseFiniteF64 numerals value).isSome := by decide +kernel
  refine .cons ⟨⟨_, rfl, rfl, rfl, rfl⟩, ?_, ?_⟩ rfl (.cons ⟨⟨_, rfl, rfl, rfl, rfl⟩, ?_, ?_⟩ rfl
    (.cons ⟨⟨_, rfl, rfl, rfl, rfl⟩, ?_, ?_⟩ rfl trivial))
  · rintro _ _ _ _ _ ⟨⟩
  · rintro _ ⟨⟩
    exact numeric "9" (by decide)
  · rintro _ _ _ _ _ ⟨⟩
  · rintro _ ⟨⟩
    exact numeric "5" (by decide)
  · rintro _ _ _ _ _ ⟨⟩
  · rintro _ ⟨⟩
    exact numeric "9" (by decide)

end Monitoring

end Ocpp.ChargePoint
