import Ocpp.ChargePoint.V201Reports
import Ocpp.Library.Grouping

/-!
# Monitoring reports

`monitoring_snapshot` of `v201_device_model.rs`: the monitors that pass the two filters of a `GetMonitoringReport`,
one row for each variable. The monitors are grouped in the order their map gives them, and a row shows the names
that the first of them was installed with.
-/

namespace Ocpp.ChargePoint
open Library

variable (toLowercase : String → String)

inductive MonitoringCriterionEnumType
  | thresholdMonitoring
  | deltaMonitoring
  | periodicMonitoring
deriving DecidableEq

structure MonitoringDataType where
  component : ComponentType
  variable_ : VariableType
  variableMonitoring : List VariableMonitoringType
deriving DecidableEq

def MonitoringDataType.key (row : MonitoringDataType) : VariableKey :=
  .fromRequest toLowercase row.component row.variable_

def monitorMatchesCriterion (kind : MonitorEnumType) : MonitoringCriterionEnumType → Bool
  | .thresholdMonitoring => kind = .upperThreshold || kind = .lowerThreshold
  | .deltaMonitoring => kind = .delta
  | .periodicMonitoring => kind = .periodic || kind = .periodicClockAligned

structure MonitorGroup where
  component : ComponentType
  variable_ : VariableType
  variableMonitoring : List VariableMonitoringType

namespace V201DeviceModel

section

variable (componentVariable : Option (List ComponentVariableType))
  (monitoringCriteria : Option (List MonitoringCriterionEnumType))

def monitorSelected (entry : MonitorEntry) : Bool :=
  (match componentVariable.filter fun filters => !filters.isEmpty with
    | none => true
    | some filters => variableMatchesFilter toLowercase entry.key filters) &&
  match monitoringCriteria.filter fun criteria => !criteria.isEmpty with
  | none => true
  | some criteria => criteria.any (monitorMatchesCriterion entry.monitor.kind)

def selectedMonitors (iteration : List (Σ _ : Int, MonitorEntry)) : List MonitorEntry :=
  (iteration.map (·.2)).filter (monitorSelected toLowercase componentVariable monitoringCriteria)

/-- `iteration` is the order in which the map gives its monitors. -/
def monitoringGroups (iteration : List (Σ _ : Int, MonitorEntry)) : HashMap VariableKey MonitorGroup :=
  group (·.key) (fun entry => ⟨entry.component, entry.variable_, []⟩)
    (fun row entry => { row with variableMonitoring := row.variableMonitoring ++ [entry.monitor] })
    (selectedMonitors toLowercase componentVariable monitoringCriteria iteration)

end

def groupRow (row : MonitorGroup) : MonitoringDataType where
  component := row.component
  variable_ := row.variable_
  variableMonitoring := sortByKey (·.id) row.variableMonitoring

def monitoringKey (row : MonitoringDataType) :
    String ×ₗ WithBot String ×ₗ WithBot Int ×ₗ String ×ₗ WithBot String :=
  toLex (row.component.name, toLex (row.component.instance_, toLex (row.component.evse.map (·.id),
    toLex (row.variable_.name, row.variable_.instance_))))

def sortMonitoring (snapshot : List MonitoringDataType) : List MonitoringDataType :=
  sortByKey monitoringKey snapshot

/-- The rows of the groups, which their map gives in some order. -/
def monitoringSnapshot (groups : List (Σ _ : VariableKey, MonitorGroup)) : List MonitoringDataType :=
  sortMonitoring (groups.map fun e => groupRow e.2)

end V201DeviceModel

/-- The monitor is on a variable the filter names, and of a kind that some criterion covers. -/
structure MonitorEntry.Passes (componentVariable : Option (List ComponentVariableType))
    (monitoringCriteria : Option (List MonitoringCriterionEnumType)) (entry : MonitorEntry) : Prop where
  named : Selects toLowercase componentVariable entry.key
  covered : ∀ criteria ∈ monitoringCriteria, criteria ≠ [] →
    ∃ criterion ∈ criteria, monitorMatchesCriterion entry.monitor.kind criterion

/-- The report is the same for every order of the maps, has one row for each variable with its monitors by
ascending id, and holds the stored monitors that pass the filters, each of them once. -/
structure MonitoringExact (model : V201DeviceModel) (componentVariable : Option (List ComponentVariableType))
    (monitoringCriteria : Option (List MonitoringCriterionEnumType)) (report : List MonitoringDataType) :
    Prop where
  ordered : ∀ iteration groups, iteration.Perm model.monitors.entries →
    groups.Perm (V201DeviceModel.monitoringGroups toLowercase componentVariable monitoringCriteria iteration).entries →
    V201DeviceModel.monitoringSnapshot groups = report
  rows : (report.map (·.key toLowercase)).Nodup
  ascending : ∀ row ∈ report, row.variableMonitoring.Pairwise fun m m' => m.id < m'.id
  once : (report.flatMap (·.variableMonitoring)).Nodup
  monitors : ∀ key monitor, (∃ row ∈ report, row.key toLowercase = key ∧ monitor ∈ row.variableMonitoring) ↔
    ∃ entry, model.monitors.lookup monitor.id = some entry ∧ entry.key = key ∧ entry.monitor = monitor ∧
      entry.Passes toLowercase componentVariable monitoringCriteria

/-- Any two monitors on one variable that pass the filters show it under the same names. -/
def Uniform (model : V201DeviceModel) (componentVariable : Option (List ComponentVariableType))
    (monitoringCriteria : Option (List MonitoringCriterionEnumType)) : Prop :=
  ∀ id id' entry entry', model.monitors.lookup id = some entry → model.monitors.lookup id' = some entry' →
    entry.Passes toLowercase componentVariable monitoringCriteria →
    entry'.Passes toLowercase componentVariable monitoringCriteria → entry.key = entry'.key →
    entry.component = entry'.component ∧ entry.variable_ = entry'.variable_

/-! ## Stored monitors -/

def VariableKey.StationWide (key : VariableKey) : Prop :=
  key.component = ⟨key.component.name, none, none, none⟩ ∧ key.instance_ = none

/-- The monitor is stored under its id, on a variable the model has. -/
structure MonitorEntry.Watches (entry : MonitorEntry) (id : Int) (variables_ : HashMap VariableKey VariableEntry) :
    Prop where
  numbered : entry.monitor.id = id
  named : entry.key = .fromRequest toLowercase entry.component entry.variable_
  known : (variables_.lookup entry.key).isSome

structure V201DeviceModel.Watched (model : V201DeviceModel) : Prop where
  stationWide : ∀ key, (model.variables_.lookup key).isSome → key.StationWide
  watches : ∀ id entry, model.monitors.lookup id = some entry → entry.Watches toLowercase id model.variables_

variable {toLowercase}

namespace V201DeviceModel.Watched

variable {model : V201DeviceModel}

theorem of_variables {variables_ : HashMap VariableKey VariableEntry} {components : Finset ComponentKey}
    (inv : model.Watched toLowercase)
    (stationWide : ∀ key, (variables_.lookup key).isSome → key.StationWide)
    (kept : ∀ key, (model.variables_.lookup key).isSome → (variables_.lookup key).isSome) :
    V201DeviceModel.Watched toLowercase { model with components, variables_ } where
  stationWide := stationWide
  watches := by
    intro id entry held
    obtain ⟨numbered, named, known⟩ := inv.watches id entry held
    exact ⟨numbered, named, kept entry.key known⟩

theorem of_monitors {monitors : HashMap Int MonitorEntry} {lastMonitorId : Int} (inv : model.Watched toLowercase)
    (watches : ∀ id entry, monitors.lookup id = some entry → entry.Watches toLowercase id model.variables_) :
    V201DeviceModel.Watched toLowercase { model with monitors, lastMonitorId } :=
  ⟨inv.stationWide, watches⟩

theorem seed (inv : model.Watched toLowercase) (component variable_ : String) (attribute_ : AttributeEnumType)
    (value : String) (policy : WritePolicy) :
    (model.seedStationVariable toLowercase component variable_ attribute_ value policy).Watched toLowercase := by
  apply inv.of_variables
  · intro key held
    rw [HashMap.lookup_insert] at held
    split_ifs at held with seeded
    · subst seeded
      exact ⟨rfl, rfl⟩
    · exact inv.stationWide key held
  · exact fun _ => HashMap.lookup_insert_isSome

theorem set (inv : model.Watched toLowercase) (component : ComponentType) (variable_ : VariableType)
    (attribute_ : AttributeEnumType) (value : String) :
    (model.set toLowercase component variable_ attribute_ value).2.Watched toLowercase := by
  fun_cases V201DeviceModel.set toLowercase model component variable_ attribute_ value
  case case5 known key entry held exposed writable written =>
    apply inv.of_variables
    · intro key' held'
      rw [HashMap.lookup_insert] at held'
      split_ifs at held' with same
      · rw [same]
        exact inv.stationWide key (Option.isSome_of_eq_some held)
      · exact inv.stationWide key' held'
    · exact fun _ => HashMap.lookup_insert_isSome
  all_goals exact inv

theorem installMonitor (inv : model.Watched toLowercase) (data : SetMonitoringDataType) :
    (model.installMonitor toLowercase data).2.Watched toLowercase := by
  obtain ⟨unchanged, -⟩ | ⟨id, entry, -, held, -, replaced⟩ | ⟨-, known, -, -, added⟩ :=
    model.installMonitor_cases toLowercase data
  · rw [unchanged]
    exact inv
  · rw [replaced]
    apply inv.of_monitors
    intro id' entry' found
    obtain ⟨rfl, rfl⟩ | ⟨-, stored⟩ := HashMap.lookup_insert_eq_some.mp found
    · obtain ⟨-, named, known⟩ := inv.watches id' entry held
      exact ⟨rfl, named, known⟩
    · exact inv.watches id' entry' stored
  · rw [added]
    apply inv.of_monitors
    intro id' entry' found
    obtain ⟨rfl, rfl⟩ | ⟨-, stored⟩ := HashMap.lookup_insert_eq_some.mp found
    · exact ⟨rfl, rfl, known⟩
    · exact inv.watches id' entry' stored

theorem clear (inv : model.Watched toLowercase) (ids : List Int) :
    (model.clearMonitors ids).2.Watched toLowercase := by
  obtain ⟨monitors, cleared, lookup⟩ := model.clearMonitors_model ids
  rw [cleared]
  apply inv.of_monitors
  intro id entry found
  rw [lookup] at found
  split_ifs at found
  exact inv.watches id entry found

end V201DeviceModel.Watched

namespace Monitoring

theorem watched_installMonitors {s : Monitoring} (inv : s.model.Watched toLowercase)
    (data : List SetMonitoringDataType) : (data.foldl (install toLowercase) s).model.Watched toLowercase := by
  induction data generalizing s with
  | nil => exact inv
  | cons data rest ih => exact ih (inv.installMonitor data)

theorem watched_step {s t : Monitoring} {action : Action} (inv : s.model.Watched toLowercase)
    (stepped : step toLowercase s action = some t) : t.model.Watched toLowercase := by
  cases action with
  | seed component variable_ attribute_ value policy =>
      obtain rfl := Option.some.inj stepped
      exact inv.seed component variable_ attribute_ value policy
  | set component variable_ attribute_ value =>
      obtain rfl := Option.some.inj stepped
      exact inv.set component variable_ attribute_ value
  | installMonitors data =>
      obtain rfl := Option.some.inj stepped
      exact watched_installMonitors inv data
  | clearMonitors ids =>
      obtain rfl := Option.some.inj stepped
      exact inv.clear ids

theorem watched_run {actions : List Action} {s : Monitoring} (ran : run (step toLowercase) new actions = some s) :
    s.model.Watched toLowercase := by
  apply run_invariant (fun _ _ _ inv _ => watched_step inv) _ (Along.always new actions) ran
  constructor <;> simp [new, V201DeviceModel.new]

end Monitoring

/-! ## Rows -/

namespace V201DeviceModel

variable {model : V201DeviceModel} {componentVariable : Option (List ComponentVariableType)}
  {monitoringCriteria : Option (List MonitoringCriterionEnumType)}
  {iteration : List (Σ _ : Int, MonitorEntry)}

theorem monitorSelected_iff (entry : MonitorEntry) :
    monitorSelected toLowercase componentVariable monitoringCriteria entry ↔
      entry.Passes toLowercase componentVariable monitoringCriteria := by
  have covered : (match monitoringCriteria.filter fun criteria => !criteria.isEmpty with
      | none => true
      | some criteria => criteria.any (monitorMatchesCriterion entry.monitor.kind)) = true ↔
      ∀ criteria ∈ monitoringCriteria, criteria ≠ [] →
        ∃ criterion ∈ criteria, monitorMatchesCriterion entry.monitor.kind criterion := by
    cases monitoringCriteria with
    | none => simp
    | some criteria => cases criteria <;> simp [Option.filter]
  rw [monitorSelected, Bool.and_eq_true, covered]
  obtain ⟨unfiltered, selected⟩ | ⟨filters, filtered, named⟩ :=
    filter_selects toLowercase componentVariable entry.key
  · simp only [unfiltered, true_and]
    exact ⟨fun covered => ⟨selected, covered⟩, fun passes => passes.covered⟩
  · simp only [filtered, named]
    exact ⟨fun ⟨named, covered⟩ => ⟨named, covered⟩, fun ⟨named, covered⟩ => ⟨named, covered⟩⟩

theorem mem_selectedMonitors (same : iteration.Perm model.monitors.entries) {entry : MonitorEntry} :
    entry ∈ selectedMonitors toLowercase componentVariable monitoringCriteria iteration ↔
      (∃ id, model.monitors.lookup id = some entry) ∧
        entry.Passes toLowercase componentVariable monitoringCriteria := by
  rw [selectedMonitors, List.mem_filter, monitorSelected_iff, List.mem_map]
  refine and_congr_left fun _ => ?_
  constructor
  · rintro ⟨⟨id, _⟩, member, rfl⟩
    exact ⟨id, HashMap.mem_entries.mp (same.mem_iff.mp member)⟩
  · rintro ⟨id, held⟩
    exact ⟨⟨id, entry⟩, same.mem_iff.mpr (HashMap.mem_entries.mpr held), rfl⟩

theorem gathered_monitors (first : MonitorEntry) (rest : List MonitorEntry) :
    gathered (fun entry => (⟨entry.component, entry.variable_, []⟩ : MonitorGroup))
      (fun row entry => { row with variableMonitoring := row.variableMonitoring ++ [entry.monitor] })
      (first :: rest) = some ⟨first.component, first.variable_, (first :: rest).map (·.monitor)⟩ := by
  have pushed : ∀ (entries : List MonitorEntry) (row : MonitorGroup), entries.foldl
      (fun row entry => { row with variableMonitoring := row.variableMonitoring ++ [entry.monitor] }) row =
        { row with variableMonitoring := row.variableMonitoring ++ entries.map (·.monitor) } := by
    intro entries
    induction entries with
    | nil => simp
    | cons entry entries ih => simp [ih]
  simp [gathered, pushed]

/-- The row of a variable: the names of one of its monitors, and all of its monitors by their ids. -/
structure RowOf (entries : List MonitorEntry) (key : VariableKey) (row : MonitoringDataType) : Prop where
  shown : ∃ entry ∈ entries, entry.key = key ∧ row.component = entry.component ∧ row.variable_ = entry.variable_
  monitors : row.variableMonitoring = sortByKey (·.id) ((entries.filter (·.key = key)).map (·.monitor))

theorem rowOf_group {key : VariableKey} {row : MonitorGroup}
    (held : (monitoringGroups toLowercase componentVariable monitoringCriteria iteration).lookup key = some row) :
    RowOf (selectedMonitors toLowercase componentVariable monitoringCriteria iteration) key (groupRow row) := by
  rw [monitoringGroups, lookup_group] at held
  generalize selectedMonitors toLowercase componentVariable monitoringCriteria iteration = entries at held ⊢
  cases here : entries.filter (·.key = key) with
  | nil =>
      rw [here] at held
      cases held
  | cons first rest =>
      rw [here, gathered_monitors] at held
      obtain rfl := Option.some.inj held
      have member : first ∈ entries.filter (·.key = key) := here ▸ List.mem_cons_self
      obtain ⟨member, same⟩ := List.mem_filter.mp member
      exact ⟨⟨first, member, by simpa using same, rfl, rfl⟩, by rw [here]; rfl⟩

theorem group_of_first {key : VariableKey} {first : MonitorEntry} {rest : List MonitorEntry}
    (selected : selectedMonitors toLowercase componentVariable monitoringCriteria iteration = first :: rest)
    (here : first.key = key) : ∃ row,
      (monitoringGroups toLowercase componentVariable monitoringCriteria iteration).lookup key = some row ∧
        row.component = first.component ∧ row.variable_ = first.variable_ := by
  rw [monitoringGroups, lookup_group, selected, List.filter_cons_of_pos (by simpa using here), gathered_monitors]
  exact ⟨_, rfl, rfl, rfl⟩

theorem mem_monitoringSnapshot {groups : List (Σ _ : VariableKey, MonitorGroup)}
    (order : groups.Perm
      (monitoringGroups toLowercase componentVariable monitoringCriteria iteration).entries)
    {row : MonitoringDataType} : row ∈ monitoringSnapshot groups ↔ ∃ key group,
      (monitoringGroups toLowercase componentVariable monitoringCriteria iteration).lookup key = some group ∧
        groupRow group = row := by
  rw [monitoringSnapshot, sortMonitoring, (sortByKey_perm _ _).mem_iff, List.mem_map]
  constructor
  · rintro ⟨⟨key, group⟩, member, shown⟩
    exact ⟨key, group, HashMap.mem_entries.mp (order.mem_iff.mp member), shown⟩
  · rintro ⟨key, group, held, shown⟩
    exact ⟨⟨key, group⟩, order.mem_iff.mpr (HashMap.mem_entries.mpr held), shown⟩

namespace Watched

variable (inv : model.Watched toLowercase) (same : iteration.Perm model.monitors.entries)
include inv same

theorem row_key {key : VariableKey} {row : MonitoringDataType}
    (shown : RowOf (selectedMonitors toLowercase componentVariable monitoringCriteria iteration) key row) :
    row.key toLowercase = key ∧ row.component.evse = none := by
  obtain ⟨entry, member, rfl, component, variable_⟩ := shown.shown
  obtain ⟨⟨id, held⟩, -⟩ := (mem_selectedMonitors same).mp member
  obtain ⟨-, named, known⟩ := inv.watches id entry held
  have stationWide := congrArg ComponentKey.evseId (inv.stationWide entry.key known).1
  rw [named] at stationWide
  refine ⟨?_, ?_⟩
  · rw [MonitoringDataType.key, component, variable_, ← named]
  · rw [component]
    exact Option.map_eq_none_iff.mp stationWide

theorem monitoringKey_injective {key key' : VariableKey} {row row' : MonitoringDataType}
    (shown : RowOf (selectedMonitors toLowercase componentVariable monitoringCriteria iteration) key row)
    (shown' : RowOf (selectedMonitors toLowercase componentVariable monitoringCriteria iteration) key' row')
    (tied : monitoringKey row = monitoringKey row') : key = key' := by
  obtain ⟨named, stationWide⟩ := inv.row_key same shown
  obtain ⟨named', stationWide'⟩ := inv.row_key same shown'
  obtain ⟨name, tied⟩ := Prod.mk.inj (toLex.injective tied)
  obtain ⟨instance_, tied⟩ := Prod.mk.inj (toLex.injective tied)
  obtain ⟨-, tied⟩ := Prod.mk.inj (toLex.injective tied)
  obtain ⟨variableName, variableInstance⟩ := Prod.mk.inj (toLex.injective tied)
  change row.component.instance_ = row'.component.instance_ at instance_
  change row.variable_.instance_ = row'.variable_.instance_ at variableInstance
  rw [← named, ← named']
  simp only [MonitoringDataType.key, VariableKey.fromRequest, ComponentKey.fromRequest, name, instance_, stationWide,
    stationWide', variableName, variableInstance]

theorem monitor_injective {entry entry' : MonitorEntry}
    (member : entry ∈ selectedMonitors toLowercase componentVariable monitoringCriteria iteration)
    (member' : entry' ∈ selectedMonitors toLowercase componentVariable monitoringCriteria iteration)
    (tied : entry.monitor.id = entry'.monitor.id) : entry = entry' := by
  obtain ⟨⟨id, held⟩, -⟩ := (mem_selectedMonitors same).mp member
  obtain ⟨⟨id', held'⟩, -⟩ := (mem_selectedMonitors same).mp member'
  rw [(inv.watches id entry held).numbered, (inv.watches id' entry' held').numbered] at tied
  rw [tied, held'] at held
  exact (Option.some.inj held).symm

theorem ids_nodup : ((iteration.map (·.2)).map (·.monitor.id)).Nodup := by
  have ids : (iteration.map (·.2)).map (·.monitor.id) = iteration.keys := by
    rw [List.map_map, List.keys]
    apply List.map_congr_left
    intro e member
    exact (inv.watches e.1 e.2 (HashMap.mem_entries.mp (same.mem_iff.mp member))).numbered
  rw [ids]
  exact (same.map Sigma.fst).nodup_iff.mpr model.monitors.keys_nodup

theorem selected_ids_nodup :
    ((selectedMonitors toLowercase componentVariable monitoringCriteria iteration).map (·.monitor.id)).Nodup :=
  (inv.ids_nodup same).sublist (List.filter_sublist.map _)

theorem groupRow_eq {iteration' : List (Σ _ : Int, MonitorEntry)} (same' : iteration'.Perm model.monitors.entries)
    (uniform : Uniform toLowercase model componentVariable monitoringCriteria) (key : VariableKey) :
    ((monitoringGroups toLowercase componentVariable monitoringCriteria iteration).lookup key).map groupRow =
      ((monitoringGroups toLowercase componentVariable monitoringCriteria iteration').lookup key).map groupRow := by
  have order : (selectedMonitors toLowercase componentVariable monitoringCriteria iteration).Perm
      (selectedMonitors toLowercase componentVariable monitoringCriteria iteration') :=
    ((same.trans same'.symm).map _).filter _
  have grouped : ((monitoringGroups toLowercase componentVariable monitoringCriteria iteration).lookup key).isSome ↔
      ((monitoringGroups toLowercase componentVariable monitoringCriteria iteration').lookup key).isSome := by
    rw [monitoringGroups, monitoringGroups, lookup_group_isSome, lookup_group_isSome]
    simp only [order.mem_iff]
  cases held : (monitoringGroups toLowercase componentVariable monitoringCriteria iteration).lookup key with
  | none =>
      cases held' : (monitoringGroups toLowercase componentVariable monitoringCriteria iteration').lookup key with
      | none => rfl
      | some row' => simp [held, held'] at grouped
  | some row =>
      cases held' : (monitoringGroups toLowercase componentVariable monitoringCriteria iteration').lookup key with
      | none => simp [held, held'] at grouped
      | some row' =>
          obtain ⟨⟨entry, member, here, component, variable_⟩, monitors⟩ := rowOf_group held
          obtain ⟨⟨entry', member', here', component', variable_'⟩, monitors'⟩ := rowOf_group held'
          obtain ⟨⟨id, stored⟩, passes⟩ := (mem_selectedMonitors same).mp member
          obtain ⟨⟨id', stored'⟩, passes'⟩ := (mem_selectedMonitors same').mp member'
          obtain ⟨components, variables_⟩ :=
            uniform id id' entry entry' stored stored' passes passes' (here.trans here'.symm)
          have sorted : (groupRow row).variableMonitoring = (groupRow row').variableMonitoring := by
            rw [monitors, monitors']
            apply sortByKey_eq_of_perm
            · exact (order.filter _).map _
            · intro m shown m' shown' tied
              obtain ⟨e, selected, rfl⟩ := List.mem_map.mp shown
              obtain ⟨e', selected', rfl⟩ := List.mem_map.mp shown'
              rw [inv.monitor_injective same (List.mem_of_mem_filter selected) (List.mem_of_mem_filter selected')
                tied]
          have components : (groupRow row).component = (groupRow row').component := by
            rw [component, component', components]
          have variables_ : (groupRow row).variable_ = (groupRow row').variable_ := by
            rw [variable_, variable_', variables_]
          simp only [Option.map_some, Option.some.injEq]
          generalize groupRow row = row at sorted components variables_ ⊢
          generalize groupRow row' = row' at sorted components variables_ ⊢
          cases row
          cases row'
          simp_all only

theorem mem_row {key : VariableKey} {row : MonitoringDataType}
    (shown : RowOf (selectedMonitors toLowercase componentVariable monitoringCriteria iteration) key row)
    {monitor : VariableMonitoringType} : monitor ∈ row.variableMonitoring ↔
      ∃ entry, model.monitors.lookup monitor.id = some entry ∧ entry.key = key ∧ entry.monitor = monitor ∧
        entry.Passes toLowercase componentVariable monitoringCriteria := by
  rw [shown.monitors, (sortByKey_perm _ _).mem_iff, List.mem_map]
  constructor
  · rintro ⟨entry, member, rfl⟩
    obtain ⟨member, here⟩ := List.mem_filter.mp member
    obtain ⟨⟨id, held⟩, passes⟩ := (mem_selectedMonitors same).mp member
    obtain rfl := (inv.watches id entry held).numbered
    exact ⟨entry, held, by simpa using here, rfl, passes⟩
  · rintro ⟨entry, held, here, rfl, passes⟩
    have member := (mem_selectedMonitors same).mpr ⟨⟨_, held⟩, passes⟩
    exact ⟨entry, List.mem_filter.mpr ⟨member, by simpa using here⟩, rfl⟩

theorem row_ascending {key : VariableKey} {row : MonitoringDataType}
    (shown : RowOf (selectedMonitors toLowercase componentVariable monitoringCriteria iteration) key row) :
    row.variableMonitoring.Pairwise fun m m' => m.id < m'.id := by
  have distinct : (row.variableMonitoring.map (·.id)).Nodup := by
    rw [shown.monitors, ((sortByKey_perm _ _).map _).nodup_iff, List.map_map]
    exact (inv.selected_ids_nodup same).sublist (List.filter_sublist.map _)
  have sorted : row.variableMonitoring.Pairwise fun m m' => m.id ≤ m'.id := by
    rw [shown.monitors]
    exact sortByKey_sorted _ _
  exact (sorted.and (List.pairwise_map.mp distinct)).imp fun ⟨le, ne⟩ => lt_of_le_of_ne le ne

variable {groups : List (Σ _ : VariableKey, MonitorGroup)}
  (order : groups.Perm (monitoringGroups toLowercase componentVariable monitoringCriteria iteration).entries)
include order

theorem snapshot_keys_nodup : ((monitoringSnapshot groups).map (·.key toLowercase)).Nodup := by
  have keys : groups.map (fun e => (groupRow e.2).key toLowercase) = groups.keys := by
    apply List.map_congr_left
    intro e member
    exact (inv.row_key same (rowOf_group (HashMap.mem_entries.mp (order.mem_iff.mp member)))).1
  rw [monitoringSnapshot, sortMonitoring, ((sortByKey_perm _ _).map _).nodup_iff, List.map_map]
  change (groups.map fun e => (groupRow e.2).key toLowercase).Nodup
  rw [keys]
  exact (order.map Sigma.fst).nodup_iff.mpr
    (monitoringGroups toLowercase componentVariable monitoringCriteria iteration).keys_nodup

theorem snapshot_eq {iteration' : List (Σ _ : Int, MonitorEntry)} (same' : iteration'.Perm model.monitors.entries)
    {groups' : List (Σ _ : VariableKey, MonitorGroup)}
    (order' : groups'.Perm (monitoringGroups toLowercase componentVariable monitoringCriteria iteration').entries)
    (uniform : Uniform toLowercase model componentVariable monitoringCriteria) :
    monitoringSnapshot groups = monitoringSnapshot groups' := by
  have rows : (groups.map fun e => groupRow e.2).Perm (groups'.map fun e => groupRow e.2) :=
    ((order.map _).trans (map_entries_perm (inv.groupRow_eq same same' uniform))).trans (order'.map _).symm
  apply sortByKey_eq_of_perm _ rows
  intro row shown row' shown' tied
  obtain ⟨e, member, rfl⟩ := List.mem_map.mp shown
  obtain ⟨e', member', rfl⟩ := List.mem_map.mp shown'
  have held := HashMap.mem_entries.mp (order.mem_iff.mp member)
  have held' := HashMap.mem_entries.mp (order.mem_iff.mp member')
  have keys := inv.monitoringKey_injective same (rowOf_group held) (rowOf_group held') tied
  rw [keys, held'] at held
  rw [Option.some.inj held]

theorem snapshot_once : ((monitoringSnapshot groups).flatMap (·.variableMonitoring)).Nodup := by
  rw [List.nodup_flatMap]
  constructor
  · intro row shown
    obtain ⟨key, group, held, rfl⟩ := (mem_monitoringSnapshot order).mp shown
    exact (inv.row_ascending same (rowOf_group held)).imp fun below same => absurd (same ▸ below) (lt_irrefl _)
  · have keys := List.pairwise_map.mp (inv.snapshot_keys_nodup same order)
    apply keys.imp_of_mem
    intro row row' shown shown' different monitor member member'
    obtain ⟨key, group, held, rfl⟩ := (mem_monitoringSnapshot order).mp shown
    obtain ⟨key', group', held', rfl⟩ := (mem_monitoringSnapshot order).mp shown'
    obtain ⟨entry, stored, here, -, -⟩ := (inv.mem_row same (rowOf_group held)).mp member
    obtain ⟨entry', stored', here', -, -⟩ := (inv.mem_row same (rowOf_group held')).mp member'
    rw [stored] at stored'
    apply different
    rw [(inv.row_key same (rowOf_group held)).1, (inv.row_key same (rowOf_group held')).1, ← here, ← here',
      Option.some.inj stored']

theorem mem_snapshot (key : VariableKey) (monitor : VariableMonitoringType) :
    (∃ row ∈ monitoringSnapshot groups, row.key toLowercase = key ∧ monitor ∈ row.variableMonitoring) ↔
      ∃ entry, model.monitors.lookup monitor.id = some entry ∧ entry.key = key ∧ entry.monitor = monitor ∧
        entry.Passes toLowercase componentVariable monitoringCriteria := by
  constructor
  · rintro ⟨row, shown, rfl, member⟩
    obtain ⟨key, group, held, rfl⟩ := (mem_monitoringSnapshot order).mp shown
    rw [(inv.row_key same (rowOf_group held)).1]
    exact (inv.mem_row same (rowOf_group held)).mp member
  · rintro ⟨entry, stored, here, monitored, passes⟩
    have selected := (mem_selectedMonitors same).mpr ⟨⟨_, stored⟩, passes⟩
    have grouped : ((monitoringGroups toLowercase componentVariable monitoringCriteria iteration).lookup key).isSome :=
      (lookup_group_isSome _ _ _).mpr ⟨entry, selected, here⟩
    obtain ⟨group, held⟩ := Option.isSome_iff_exists.mp grouped
    have shown := rowOf_group held
    have named := (inv.row_key same shown).1
    have member := (inv.mem_row same shown).mpr ⟨entry, stored, here, monitored, passes⟩
    exact ⟨groupRow group, (mem_monitoringSnapshot order).mpr ⟨key, group, held, rfl⟩, named, member⟩

end Watched

/-- A monitor that passes is the first of an order that the map can give, and the row then shows its names. -/
theorem shown_first {id : Int} {entry : MonitorEntry} (inv : model.Watched toLowercase)
    (held : model.monitors.lookup id = some entry)
    (passes : entry.Passes toLowercase componentVariable monitoringCriteria) :
    ∃ iteration : List (Σ _ : Int, MonitorEntry), iteration.Perm model.monitors.entries ∧
      ∃ row ∈ monitoringSnapshot
          (monitoringGroups toLowercase componentVariable monitoringCriteria iteration).entries,
        row.key toLowercase = entry.key ∧ row.component = entry.component ∧ row.variable_ = entry.variable_ := by
  obtain ⟨before, after, entries⟩ := List.append_of_mem (HashMap.mem_entries.mpr held)
  have order : (⟨id, entry⟩ :: (before ++ after)).Perm model.monitors.entries := by
    rw [entries]
    exact List.perm_middle.symm
  have selected : selectedMonitors toLowercase componentVariable monitoringCriteria
      (⟨id, entry⟩ :: (before ++ after)) =
        entry :: selectedMonitors toLowercase componentVariable monitoringCriteria (before ++ after) := by
    rw [selectedMonitors, List.map_cons, List.filter_cons_of_pos ((monitorSelected_iff entry).mpr passes)]
    rfl
  obtain ⟨group, grouped, component, variable_⟩ := group_of_first selected rfl
  have shown := (mem_monitoringSnapshot (.refl _)).mpr ⟨entry.key, group, grouped, rfl⟩
  have named := (inv.row_key order (rowOf_group grouped)).1
  exact ⟨_, order, groupRow group, shown, named, component, variable_⟩

/-- The report has the properties that it is made for if, and only if, no variable is monitored under two names. -/
theorem monitoringExact_iff (inv : model.Watched toLowercase) :
    (∃ report, MonitoringExact toLowercase model componentVariable monitoringCriteria report) ↔
      Uniform toLowercase model componentVariable monitoringCriteria := by
  constructor
  · rintro ⟨report, exact_⟩ id id' entry entry' held held' passes passes' same
    obtain ⟨iteration, order, row, shown, named, component, variable_⟩ := shown_first inv held passes
    obtain ⟨iteration', order', row', shown', named', component', variable_'⟩ := shown_first inv held' passes'
    rw [exact_.ordered iteration _ order (.refl _)] at shown
    rw [exact_.ordered iteration' _ order' (.refl _)] at shown'
    have rows : row = row' :=
      List.inj_on_of_nodup_map exact_.rows shown shown' (named.trans (same.trans named'.symm))
    subst rows
    exact ⟨component.symm.trans component', variable_.symm.trans variable_'⟩
  · intro uniform
    refine ⟨monitoringSnapshot (monitoringGroups toLowercase componentVariable monitoringCriteria
      model.monitors.entries).entries, ?_, ?_, ?_, ?_, ?_⟩
    · intro iteration groups same order
      exact inv.snapshot_eq same order (.refl _) (.refl _) uniform
    · exact inv.snapshot_keys_nodup (.refl _) (.refl _)
    · intro row shown
      obtain ⟨key, group, held, rfl⟩ := (mem_monitoringSnapshot (.refl _)).mp shown
      exact inv.row_ascending (.refl _) (rowOf_group held)
    · exact inv.snapshot_once (.refl _) (.refl _)
    · exact inv.mem_snapshot (.refl _) (.refl _)

end V201DeviceModel

namespace Monitoring

/-- After every run, whatever the filters. -/
theorem monitoring_report_exact (actions : List Action) {s : Monitoring}
    (ran : run (step toLowercase) new actions = some s) (componentVariable : Option (List ComponentVariableType))
    (monitoringCriteria : Option (List MonitoringCriterionEnumType)) :
    (∃ report, MonitoringExact toLowercase s.model componentVariable monitoringCriteria report) ↔
      Uniform toLowercase s.model componentVariable monitoringCriteria :=
  V201DeviceModel.monitoringExact_iff (watched_run ran)

def spelledMonitor (name : String) (kind : MonitorEnumType) : SetMonitoringDataType :=
  ⟨none, none, 0, kind, 5, ⟨"Controller", none, none, none⟩, ⟨name, none, none⟩⟩

/-- Two monitors on one variable, under two spellings of its name. -/
def respelled : List Action :=
  [.seed "Controller" "Power" .actual "0" ⟨false, false⟩,
    .installMonitors [spelledMonitor "Power" .delta, spelledMonitor "power" .periodic]]

theorem respelled_uniform {s : Monitoring} (ran : run (step lowered) new respelled = some s) :
    Uniform lowered s.model none (some [.deltaMonitoring]) := by
  have stored : ∀ e ∈ s.model.monitors.entries, e.2.monitor.kind = .delta →
      e.2.component = ⟨"Controller", none, none, none⟩ ∧ e.2.variable_ = ⟨"Power", none, none⟩ := by
    obtain rfl := Option.some.inj ran
    decide
  have named : ∀ id entry, s.model.monitors.lookup id = some entry →
      entry.Passes lowered none (some [.deltaMonitoring]) →
      entry.component = ⟨"Controller", none, none, none⟩ ∧ entry.variable_ = ⟨"Power", none, none⟩ := by
    intro id entry held passes
    obtain ⟨criterion, member, covered⟩ := passes.covered _ rfl (List.cons_ne_nil _ _)
    obtain rfl := List.mem_singleton.mp member
    exact stored _ (HashMap.mem_entries.mpr held) (of_decide_eq_true covered)
  intro id id' entry entry' held held' passes passes' _
  obtain ⟨component, variable_⟩ := named id entry held passes
  obtain ⟨component', variable_'⟩ := named id' entry' held' passes'
  exact ⟨component.trans component'.symm, variable_.trans variable_'.symm⟩

theorem respelled_deltas_exact : ∃ s, run (step lowered) new respelled = some s ∧
    ∃ report, MonitoringExact lowered s.model none (some [.deltaMonitoring]) report :=
  ⟨_, rfl, (monitoring_report_exact respelled rfl none (some [.deltaMonitoring])).mpr (respelled_uniform rfl)⟩

/-- The order of the map decides which of the two spellings is shown. -/
theorem respelled_inexact : ∃ s, run (step lowered) new respelled = some s ∧
    ¬ ∃ report, MonitoringExact lowered s.model none none report := by
  have ran : run (step lowered) new respelled = some _ := rfl
  refine ⟨_, ran, fun exact_ => ?_⟩
  have uniform := (V201DeviceModel.monitoringExact_iff (watched_run ran)).mp exact_
  have unfiltered : ∀ entry : MonitorEntry, entry.Passes lowered none none :=
    fun entry => ⟨by simp [Selects], by simp⟩
  have spelled := (uniform 1 2 _ _ rfl rfl (unfiltered _) (unfiltered _) rfl).2
  exact absurd spelled (by decide)

end Monitoring

end Ocpp.ChargePoint
