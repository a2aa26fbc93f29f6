import Mathlib.Data.Prod.Lex
import Mathlib.Data.String.Basic
import Mathlib.Order.WithBot
import Ocpp.ChargePoint.V201DeviceModel
import Ocpp.Library.Iterator

/-!
# Reads, writes and reports of the 2.0.1 device model

A variable is looked up under its normalized name and reported under the name it was seeded with. Reports
go through the variables in the order the map gives them and are sorted by the reported names.
-/

namespace Ocpp.ChargePoint
open Library

variable (toLowercase : String → String)

inductive GetVariableStatusEnumType
  | accepted
  | rejected
  | unknownComponent
  | unknownVariable
  | notSupportedAttributeType
deriving DecidableEq

inductive MutabilityEnumType
  | readOnly
  | writeOnly
  | readWrite
deriving DecidableEq

structure VariableAttributeType where
  kind : Option AttributeEnumType
  value : Option String
  mutability : Option MutabilityEnumType
  persistent : Option Bool
  constant : Option Bool
deriving DecidableEq

structure ReportDataType where
  component : ComponentType
  variable_ : VariableType
  variableAttribute : List VariableAttributeType
deriving DecidableEq

structure ComponentVariableType where
  component : ComponentType
  variable_ : Option VariableType
deriving DecidableEq

inductive ComponentCriterionEnumType
  | active
  | available
  | enabled
  | problem
deriving DecidableEq

namespace V201DeviceModel

def get (model : V201DeviceModel) (component : ComponentType) (variable_ : VariableType)
    (attribute_ : AttributeEnumType) : GetVariableStatusEnumType × Option String :=
  if .fromRequest toLowercase component ∉ model.components then (.unknownComponent, none)
  else
    match model.variables_.lookup (.fromRequest toLowercase component variable_) with
    | none => (.unknownVariable, none)
    | some entry =>
        match entry.attributes.find? (·.1 = attribute_) with
        | some slot => (.accepted, some slot.2)
        | none => (.notSupportedAttributeType, none)

def variableMatchesFilter (key : VariableKey) (filters : List ComponentVariableType) : Bool :=
  filters.any fun cv =>
    match cv.variable_ with
    | none => key.component = .fromRequest toLowercase cv.component
    | some variable_ => key = .fromRequest toLowercase cv.component variable_

def healthyStateMatchesCriteria (criteria : List ComponentCriterionEnumType) : Bool :=
  criteria.all fun
    | .active | .available | .enabled => true
    | .problem => false

def entryToReportData (entry : VariableEntry) : ReportDataType where
  component := entry.component
  variable_ := entry.variable_
  variableAttribute := entry.attributes.map fun (kind, value) =>
    { kind := some kind
      value := some value
      mutability := some (if entry.policy.readOnly then .readOnly else .readWrite)
      persistent := none
      constant := none }

/-- The order of the source compares tuples field by field, and `None` comes before every `Some`. -/
def reportKey (row : ReportDataType) :
    String ×ₗ WithBot String ×ₗ WithBot Int ×ₗ String ×ₗ WithBot String :=
  toLex (row.component.name, toLex (row.component.instance_, toLex (row.component.evse.map (·.id),
    toLex (row.variable_.name, row.variable_.instance_))))

def sortReport (report : List ReportDataType) : List ReportDataType :=
  sortByKey reportKey report

/-- `iteration` is the order in which the map gives its variables. -/
def reportFiltered (iteration : List (Σ _ : VariableKey, VariableEntry))
    (componentVariable : Option (List ComponentVariableType))
    (componentCriteria : Option (List ComponentCriterionEnumType)) : List ReportDataType :=
  if componentCriteria.any fun criteria =>
      !criteria.isEmpty && !healthyStateMatchesCriteria criteria then []
  else
    let selected := iteration.filter fun e =>
      match componentVariable.filter fun filters => !filters.isEmpty with
      | none => true
      | some filters => variableMatchesFilter toLowercase e.1 filters
    sortReport (selected.map fun e => entryToReportData e.2)

/-! ## Attributes -/

theorem find?_setAttribute (attribute_ other : AttributeEnumType) (value : String)
    (slots : List (AttributeEnumType × String)) :
    (setAttribute attribute_ value slots).find? (·.1 = other) =
      if other = attribute_ then some (attribute_, value) else slots.find? (·.1 = other) := by
  induction slots with
  | nil =>
      by_cases same : other = attribute_
      · simp [setAttribute, same]
      · simp [setAttribute, same, Ne.symm same]
  | cons slot slots ih =>
      rw [setAttribute]
      split_ifs with here same same
      · simp [same]
      · have there : slot.1 ≠ other := fun found => same (found ▸ here)
        simp [there, Ne.symm same]
      · subst same
        rw [List.find?_cons_of_neg (by simpa using here), ih, if_pos rfl]
      · rw [List.find?_cons, ih, if_neg same, List.find?_cons]

theorem setAttribute_kinds (attribute_ : AttributeEnumType) (value : String)
    (slots : List (AttributeEnumType × String)) :
    (setAttribute attribute_ value slots).map (·.1) =
      if attribute_ ∈ slots.map (·.1) then slots.map (·.1) else slots.map (·.1) ++ [attribute_] := by
  induction slots with
  | nil => simp [setAttribute]
  | cons slot slots ih =>
      rw [setAttribute]
      by_cases here : slot.1 = attribute_
      · simp [here]
      · rw [if_neg here, List.map_cons, ih, List.map_cons]
        by_cases later : attribute_ ∈ slots.map (·.1)
        · rw [if_pos later, if_pos (List.mem_cons_of_mem _ later)]
        · rw [if_neg later, if_neg (by simpa [Ne.symm here] using later), List.cons_append]

theorem setAttribute_nodup {attribute_ : AttributeEnumType} {value : String}
    {slots : List (AttributeEnumType × String)} (once : (slots.map (·.1)).Nodup) :
    ((setAttribute attribute_ value slots).map (·.1)).Nodup := by
  rw [setAttribute_kinds]
  split_ifs with present
  · exact once
  · rw [List.nodup_append]
    refine ⟨once, List.nodup_singleton _, ?_⟩
    rintro kind member _ last rfl
    rw [List.mem_singleton.mp last] at member
    exact present member

theorem find?_eq_some_iff_mem {slots : List (AttributeEnumType × String)} (once : (slots.map (·.1)).Nodup)
    {kind : AttributeEnumType} {value : String} :
    slots.find? (·.1 = kind) = some (kind, value) ↔ (kind, value) ∈ slots := by
  induction slots with
  | nil => simp
  | cons slot slots ih =>
      rw [List.map_cons, List.nodup_cons] at once
      by_cases here : slot.1 = kind
      · subst here
        rw [List.find?_cons_of_pos (by simp), List.mem_cons, Option.some_inj]
        constructor
        · exact fun same => .inl same.symm
        · rintro (same | later)
          · exact same.symm
          · exact absurd (List.mem_map_of_mem later) once.1
      · rw [List.find?_cons_of_neg (by simpa using here), ih once.2, List.mem_cons]
        refine ⟨.inr, fun member => member.resolve_left ?_⟩
        rintro rfl
        exact here rfl

end V201DeviceModel

/-! ## Writes -/

/-- The answers with which a value is written. -/
def SetVariableStatusEnumType.Applies : SetVariableStatusEnumType → Prop
  | accepted | rebootRequired => True
  | _ => False

structure SetAgrees (model : V201DeviceModel) (component : ComponentType) (variable_ : VariableType)
    (attribute_ : AttributeEnumType) (value : String) (status : SetVariableStatusEnumType)
    (after : V201DeviceModel) : Prop where
  unknownComponent : status = .unknownComponent ↔
    (model.get toLowercase component variable_ attribute_).1 = .unknownComponent
  unknownVariable : status = .unknownVariable ↔
    (model.get toLowercase component variable_ attribute_).1 = .unknownVariable
  notSupported : status = .notSupportedAttributeType ↔
    (model.get toLowercase component variable_ attribute_).1 = .notSupportedAttributeType
  written : status.Applies → ∀ component' variable',
    VariableKey.fromRequest toLowercase component' variable' = .fromRequest toLowercase component variable_ →
    after.get toLowercase component' variable' attribute_ = (.accepted, some value)
  others : ∀ component' variable' attribute',
    VariableKey.fromRequest toLowercase component' variable' ≠ .fromRequest toLowercase component variable_ ∨
      attribute' ≠ attribute_ →
    after.get toLowercase component' variable' attribute' = model.get toLowercase component' variable' attribute'
  policies : ∀ key, (after.variables_.lookup key).map (·.policy) = (model.variables_.lookup key).map (·.policy)
  monitors : after.monitors = model.monitors
  unchanged : ¬status.Applies → after = model

namespace V201DeviceModel

variable {toLowercase} {model : V201DeviceModel} {component : ComponentType} {variable_ : VariableType}
  {attribute_ : AttributeEnumType}

theorem get_of_lookup {entry : VariableEntry} (known : .fromRequest toLowercase component ∈ model.components)
    (held : model.variables_.lookup (.fromRequest toLowercase component variable_) = some entry) :
    model.get toLowercase component variable_ attribute_ =
      match entry.attributes.find? (·.1 = attribute_) with
      | some slot => (.accepted, some slot.2)
      | none => (.notSupportedAttributeType, none) := by
  rw [get, if_neg (not_not.mpr known), held]

theorem get_exposed {entry : VariableEntry} (known : .fromRequest toLowercase component ∈ model.components)
    (held : model.variables_.lookup (.fromRequest toLowercase component variable_) = some entry)
    (exposed : ¬entry.attributes.all (·.1 ≠ attribute_)) :
    (model.get toLowercase component variable_ attribute_).1 = .accepted := by
  obtain ⟨slot, member, kind⟩ : ∃ slot ∈ entry.attributes, slot.1 = attribute_ := by simpa using exposed
  rw [get_of_lookup known held]
  cases search : entry.attributes.find? (·.1 = attribute_) with
  | some slot => rfl
  | none => simpa [kind] using List.find?_eq_none.mp search slot member

theorem setAgrees_written {entry : VariableEntry} {value : String} {status : SetVariableStatusEnumType}
    (known : .fromRequest toLowercase component ∈ model.components)
    (held : model.variables_.lookup (.fromRequest toLowercase component variable_) = some entry)
    (exposed : ¬entry.attributes.all (·.1 ≠ attribute_)) (applies : status.Applies) :
    SetAgrees toLowercase model component variable_ attribute_ value status { model with
      variables_ := model.variables_.insert (.fromRequest toLowercase component variable_)
        { entry with attributes := setAttribute attribute_ value entry.attributes } } := by
  have found := get_exposed known held exposed
  constructor
  · rw [found]
    cases status <;> simp_all [SetVariableStatusEnumType.Applies]
  · rw [found]
    cases status <;> simp_all [SetVariableStatusEnumType.Applies]
  · rw [found]
    cases status <;> simp_all [SetVariableStatusEnumType.Applies]
  · intro _ component' variable' same
    have inside : ComponentKey.fromRequest toLowercase component' ∈ model.components := by
      rw [show ComponentKey.fromRequest toLowercase component' = .fromRequest toLowercase component from
        congrArg VariableKey.component same]
      exact known
    rw [get, if_neg (not_not.mpr inside), same, AList.lookup_insert]
    simp only [find?_setAttribute, if_true]
  · intro component' variable' attribute' other
    simp only [get, HashMap.lookup_insert]
    by_cases same : VariableKey.fromRequest toLowercase component' variable' =
        .fromRequest toLowercase component variable_
    · rw [if_pos same, same, held]
      simp only [find?_setAttribute, if_neg (other.resolve_left (not_not.mpr same))]
    · rw [if_neg same]
  · intro key
    rw [HashMap.lookup_insert]
    split_ifs with same
    · rw [same, held]
      rfl
    · rfl
  · rfl
  · exact fun refused => absurd applies refused

theorem set_agrees (model : V201DeviceModel) (component : ComponentType) (variable_ : VariableType)
    (attribute_ : AttributeEnumType) (value : String) :
    SetAgrees toLowercase model component variable_ attribute_ value
      (model.set toLowercase component variable_ attribute_ value).1
      (model.set toLowercase component variable_ attribute_ value).2 := by
  -- the refusals leave the model as it is, and `get` gives the same reason
  have refused : ∀ status : SetVariableStatusEnumType, ¬status.Applies →
      (status = .unknownComponent ↔ (model.get toLowercase component variable_ attribute_).1 = .unknownComponent) →
      (status = .unknownVariable ↔ (model.get toLowercase component variable_ attribute_).1 = .unknownVariable) →
      (status = .notSupportedAttributeType ↔
        (model.get toLowercase component variable_ attribute_).1 = .notSupportedAttributeType) →
      SetAgrees toLowercase model component variable_ attribute_ value status model :=
    fun status refuses first second third => ⟨first, second, third, fun applies => absurd applies refuses,
      fun _ _ _ _ => rfl, fun _ => rfl, rfl, fun _ => rfl⟩
  fun_cases set toLowercase model component variable_ attribute_ value
  case case1 unknown =>
    have answer : (model.get toLowercase component variable_ attribute_).1 = .unknownComponent := by
      rw [get, if_pos unknown]
    exact refused _ id (by simp [answer]) (by simp [answer]) (by simp [answer])
  case case2 known key absent =>
    have answer : (model.get toLowercase component variable_ attribute_).1 = .unknownVariable := by
      rw [get, if_neg known, show model.variables_.lookup _ = none from absent]
    exact refused _ id (by simp [answer]) (by simp [answer]) (by simp [answer])
  case case3 known key entry held missing =>
    have answer : (model.get toLowercase component variable_ attribute_).1 = .notSupportedAttributeType := by
      rw [get_of_lookup (not_not.mp known) held, List.find?_eq_none.mpr (by simpa using missing)]
    exact refused _ id (by simp [answer]) (by simp [answer]) (by simp [answer])
  case case4 known key entry held exposed readOnly =>
    have answer := get_exposed (not_not.mp known) held exposed
    exact refused _ id (by simp [answer]) (by simp [answer]) (by simp [answer])
  case case5 known key entry held exposed writable written =>
    apply setAgrees_written (not_not.mp known) held exposed
    split_ifs <;> trivial

end V201DeviceModel

/-! ## Reports -/

def ReportDataType.key (row : ReportDataType) : VariableKey :=
  .fromRequest toLowercase row.component row.variable_

/-- Some entry of the filter names the variable or its component; an absent or empty filter selects all. -/
def Selects (componentVariable : Option (List ComponentVariableType)) (key : VariableKey) : Prop :=
  ∀ filters ∈ componentVariable, filters ≠ [] → ∃ cv ∈ filters,
    key.component = .fromRequest toLowercase cv.component ∧
      ∀ variable_ ∈ cv.variable_, key = .fromRequest toLowercase cv.component variable_

def AsksForProblem (componentCriteria : Option (List ComponentCriterionEnumType)) : Prop :=
  ∃ criteria ∈ componentCriteria, .problem ∈ criteria

structure ReportAgrees (model : V201DeviceModel) (componentVariable : Option (List ComponentVariableType))
    (componentCriteria : Option (List ComponentCriterionEnumType)) (report : List ReportDataType) : Prop where
  ordered : ∀ iteration, iteration.Perm model.variables_.entries →
    V201DeviceModel.reportFiltered toLowercase iteration componentVariable componentCriteria = report
  one : ∀ key, (model.variables_.lookup key).isSome → Selects toLowercase componentVariable key →
    ¬AsksForProblem componentCriteria → report.countP (fun row => row.key toLowercase = key) = 1
  only : ∀ row ∈ report, (model.variables_.lookup (row.key toLowercase)).isSome ∧
    Selects toLowercase componentVariable (row.key toLowercase) ∧ ¬AsksForProblem componentCriteria
  values : ∀ row ∈ report, ∀ kind value,
    (∃ attribute_ ∈ row.variableAttribute, attribute_.kind = some kind ∧ attribute_.value = some value) ↔
      model.get toLowercase row.component row.variable_ kind = (.accepted, some value)

/-- The variable is stored under the normalized form of the name it is reported with. -/
structure VariableEntry.Displayed (entry : VariableEntry) (key : VariableKey) (components : Finset ComponentKey) :
    Prop where
  named : VariableKey.fromRequest toLowercase entry.component entry.variable_ = key
  known : key.component ∈ components
  stationWide : entry.component.evse = none
  once : (entry.attributes.map (·.1)).Nodup

namespace V201DeviceModel

def Displayed (model : V201DeviceModel) : Prop :=
  ∀ key entry, model.variables_.lookup key = some entry → entry.Displayed toLowercase key model.components

variable {toLowercase} {model : V201DeviceModel}

theorem Displayed.seed (inv : Displayed toLowercase model) (component variable_ : String)
    (attribute_ : AttributeEnumType) (value : String) (policy : WritePolicy) :
    Displayed toLowercase (model.seedStationVariable toLowercase component variable_ attribute_ value policy) := by
  intro key entry found
  obtain ⟨rfl, rfl⟩ | ⟨-, held⟩ := HashMap.lookup_insert_eq_some.mp found
  · have member := Finset.mem_insert_self (⟨toLowercase component, none, none, none⟩ : ComponentKey)
      model.components
    cases before : model.variables_.lookup
        ⟨⟨toLowercase component, none, none, none⟩, toLowercase variable_, none⟩ with
    | none => exact ⟨rfl, member, rfl, setAttribute_nodup List.nodup_nil⟩
    | some entry =>
        obtain ⟨named, -, stationWide, once⟩ := inv _ entry before
        exact ⟨named, member, stationWide, setAttribute_nodup once⟩
  · obtain ⟨named, known, stationWide, once⟩ := inv key entry held
    exact ⟨named, Finset.mem_insert_of_mem known, stationWide, once⟩

theorem Displayed.set (inv : Displayed toLowercase model) (component : ComponentType) (variable_ : VariableType)
    (attribute_ : AttributeEnumType) (value : String) :
    Displayed toLowercase (model.set toLowercase component variable_ attribute_ value).2 := by
  fun_cases V201DeviceModel.set toLowercase model component variable_ attribute_ value
  case case5 known key entry held exposed writable written =>
    intro key' entry' found
    obtain ⟨rfl, rfl⟩ | ⟨-, stored⟩ := HashMap.lookup_insert_eq_some.mp found
    · obtain ⟨named, known, stationWide, once⟩ := inv key entry held
      exact ⟨named, known, stationWide, setAttribute_nodup once⟩
    · exact inv key' entry' stored
  all_goals exact inv

variable (toLowercase) in
theorem installMonitor_variables (model : V201DeviceModel) (data : SetMonitoringDataType) :
    (model.installMonitor toLowercase data).2.variables_ = model.variables_ ∧
      (model.installMonitor toLowercase data).2.components = model.components := by
  obtain ⟨unchanged, -⟩ | ⟨id, entry, -, -, -, replaced⟩ | ⟨-, -, -, -, added⟩ :=
    model.installMonitor_cases toLowercase data
  · rw [unchanged]
    exact ⟨rfl, rfl⟩
  · rw [replaced]
    exact ⟨rfl, rfl⟩
  · rw [added]
    exact ⟨rfl, rfl⟩

variable (componentVariable : Option (List ComponentVariableType))
  (componentCriteria : Option (List ComponentCriterionEnumType))

theorem variableMatchesFilter_iff (key : VariableKey) (filters : List ComponentVariableType) :
    variableMatchesFilter toLowercase key filters ↔ ∃ cv ∈ filters,
      key.component = .fromRequest toLowercase cv.component ∧
        ∀ variable_ ∈ cv.variable_, key = .fromRequest toLowercase cv.component variable_ := by
  rw [variableMatchesFilter, List.any_eq_true]
  refine exists_congr fun cv => and_congr_right fun _ => ?_
  cases named : cv.variable_ with
  | none => simp
  | some variable_ =>
      rw [decide_eq_true_iff]
      constructor
      · rintro rfl
        exact ⟨rfl, by simp⟩
      · exact fun matched => matched.2 variable_ rfl

theorem healthyStateMatchesCriteria_iff (criteria : List ComponentCriterionEnumType) :
    healthyStateMatchesCriteria criteria ↔ .problem ∉ criteria := by
  rw [healthyStateMatchesCriteria, List.all_eq_true]
  constructor
  · exact fun healthy asked => absurd (healthy .problem asked) (by decide)
  · intro unasked criterion member
    cases criterion with
    | problem => exact absurd member unasked
    | active | available | enabled => rfl

variable (toLowercase) in
/-- The entries of the map that a report has a row for. -/
def reported (iteration : List (Σ _ : VariableKey, VariableEntry)) : List (Σ _ : VariableKey, VariableEntry) :=
  iteration.filter fun e =>
    match componentVariable.filter fun filters => !filters.isEmpty with
    | none => true
    | some filters => variableMatchesFilter toLowercase e.1 filters

variable (toLowercase) in
theorem filter_selects (key : VariableKey) :
    (componentVariable.filter (fun filters => !filters.isEmpty) = none ∧ Selects toLowercase componentVariable key) ∨
      ∃ filters, componentVariable.filter (fun filters => !filters.isEmpty) = some filters ∧
        (variableMatchesFilter toLowercase key filters ↔ Selects toLowercase componentVariable key) := by
  cases componentVariable with
  | none => exact .inl ⟨rfl, by simp [Selects]⟩
  | some filters =>
      cases filters with
      | nil => exact .inl ⟨rfl, by simp [Selects]⟩
      | cons cv filters =>
          refine .inr ⟨cv :: filters, rfl, ?_⟩
          rw [variableMatchesFilter_iff]
          simp [Selects]

theorem mem_reported {iteration : List (Σ _ : VariableKey, VariableEntry)} {e : Σ _ : VariableKey, VariableEntry} :
    e ∈ reported toLowercase componentVariable iteration ↔
      e ∈ iteration ∧ Selects toLowercase componentVariable e.1 := by
  rw [reported, List.mem_filter]
  refine and_congr_right fun _ => ?_
  obtain ⟨unfiltered, selected⟩ | ⟨filters, filtered, named⟩ :=
    filter_selects toLowercase componentVariable e.1
  · simp [unfiltered, selected]
  · rw [filtered]
    exact named

theorem unhealthy_iff : (componentCriteria.any fun criteria =>
    !criteria.isEmpty && !healthyStateMatchesCriteria criteria) ↔ AsksForProblem componentCriteria := by
  cases componentCriteria with
  | none => simp [AsksForProblem]
  | some criteria =>
      by_cases asked : .problem ∈ criteria
      · have unhealthy : healthyStateMatchesCriteria criteria = false := by
          rw [← Bool.not_eq_true, healthyStateMatchesCriteria_iff]
          exact not_not.mpr asked
        simp [AsksForProblem, asked, unhealthy, List.ne_nil_of_mem asked]
      · simp [AsksForProblem, asked, (healthyStateMatchesCriteria_iff criteria).mpr asked]

variable {componentCriteria}

theorem reportFiltered_problem (iteration : List (Σ _ : VariableKey, VariableEntry))
    (asks : AsksForProblem componentCriteria) :
    reportFiltered toLowercase iteration componentVariable componentCriteria = [] :=
  if_pos ((unhealthy_iff componentCriteria).mpr asks)

theorem reportFiltered_healthy (iteration : List (Σ _ : VariableKey, VariableEntry))
    (healthy : ¬AsksForProblem componentCriteria) :
    reportFiltered toLowercase iteration componentVariable componentCriteria =
      sortReport ((reported toLowercase componentVariable iteration).map fun e => entryToReportData e.2) :=
  if_neg fun unhealthy => healthy ((unhealthy_iff componentCriteria).mp unhealthy)

theorem Displayed.reportKey_injective (inv : Displayed toLowercase model)
    {e e' : Σ _ : VariableKey, VariableEntry} (member : e ∈ model.variables_.entries)
    (member' : e' ∈ model.variables_.entries)
    (same : reportKey (entryToReportData e.2) = reportKey (entryToReportData e'.2)) : e = e' := by
  have held := HashMap.mem_entries.mp member
  have held' := HashMap.mem_entries.mp member'
  obtain ⟨named, -, stationWide, -⟩ := inv e.1 e.2 held
  obtain ⟨named', -, stationWide', -⟩ := inv e'.1 e'.2 held'
  obtain ⟨name, same⟩ := Prod.mk.inj (toLex.injective same)
  obtain ⟨instance_, same⟩ := Prod.mk.inj (toLex.injective same)
  obtain ⟨-, same⟩ := Prod.mk.inj (toLex.injective same)
  obtain ⟨variableName, variableInstance⟩ := Prod.mk.inj (toLex.injective same)
  have key : e.1 = e'.1 := by
    change e.2.component.name = e'.2.component.name at name
    change e.2.component.instance_ = e'.2.component.instance_ at instance_
    change e.2.variable_.name = e'.2.variable_.name at variableName
    change e.2.variable_.instance_ = e'.2.variable_.instance_ at variableInstance
    rw [← named, ← named']
    simp only [VariableKey.fromRequest, ComponentKey.fromRequest, name, instance_, stationWide, stationWide',
      variableName, variableInstance]
  rw [key, held'] at held
  exact Sigma.ext key (heq_of_eq (Option.some.inj held).symm)

theorem Displayed.row_key (inv : Displayed toLowercase model) {e : Σ _ : VariableKey, VariableEntry}
    (member : e ∈ model.variables_.entries) : (entryToReportData e.2).key toLowercase = e.1 :=
  (inv e.1 e.2 (HashMap.mem_entries.mp member)).named

theorem Displayed.get_iff (inv : Displayed toLowercase model) {key : VariableKey} {entry : VariableEntry}
    (held : model.variables_.lookup key = some entry) (kind : AttributeEnumType) (value : String) :
    model.get toLowercase entry.component entry.variable_ kind = (.accepted, some value) ↔
      (kind, value) ∈ entry.attributes := by
  obtain ⟨rfl, known, -, once⟩ := inv key entry held
  rw [get_of_lookup known held, ← find?_eq_some_iff_mem once]
  cases search : entry.attributes.find? (·.1 = kind) with
  | none => simp
  | some slot =>
      have found : slot.1 = kind := by simpa using List.find?_some search
      constructor
      · intro read
        rw [← Option.some.inj (Prod.mk.inj read).2, ← found]
      · intro same
        rw [Option.some.inj same]

theorem Displayed.report_agrees_of_perm (inv : Displayed toLowercase model) {report : List ReportDataType}
    (healthy : ¬AsksForProblem componentCriteria)
    (ordered : ∀ iteration, iteration.Perm model.variables_.entries →
      reportFiltered toLowercase iteration componentVariable componentCriteria = report)
    (rows : report.Perm ((reported toLowercase componentVariable model.variables_.entries).map
      fun e => entryToReportData e.2)) :
    ReportAgrees toLowercase model componentVariable componentCriteria report := by
  have row : ∀ row ∈ report, ∃ key entry, model.variables_.lookup key = some entry ∧
      Selects toLowercase componentVariable key ∧ entryToReportData entry = row := by
    intro row member
    obtain ⟨e, reported, rfl⟩ := List.mem_map.mp (rows.mem_iff.mp member)
    obtain ⟨member, selected⟩ := (mem_reported componentVariable).mp reported
    exact ⟨e.1, e.2, HashMap.mem_entries.mp member, selected, rfl⟩
  constructor
  · exact ordered
  · intro key stored selected _
    obtain ⟨entry, held⟩ := Option.isSome_iff_exists.mp stored
    have member : ⟨key, entry⟩ ∈ reported toLowercase componentVariable model.variables_.entries :=
      (mem_reported componentVariable).mpr ⟨HashMap.mem_entries.mpr held, selected⟩
    have once : ((reported toLowercase componentVariable model.variables_.entries).map (·.1)).Nodup :=
      model.variables_.nodupKeys.sublist List.filter_sublist
    rw [rows.countP_eq, List.countP_map]
    calc
      _ = (reported toLowercase componentVariable model.variables_.entries).countP (·.1 = key) := by
        apply List.countP_congr
        intro e shown
        simp [inv.row_key ((mem_reported componentVariable).mp shown).1]
      _ = ((reported toLowercase componentVariable model.variables_.entries).map (·.1)).count key := by
        rw [List.count, List.countP_map]
        rfl
      _ = 1 := List.count_eq_one_of_mem once (List.mem_map_of_mem member)
  · intro _ member
    obtain ⟨key, entry, held, selected, rfl⟩ := row _ member
    rw [inv.row_key (HashMap.mem_entries.mpr held)]
    exact ⟨Option.isSome_of_eq_some held, selected, healthy⟩
  · intro _ member kind value
    obtain ⟨key, entry, held, -, rfl⟩ := row _ member
    refine Iff.trans ?_ (inv.get_iff held kind value).symm
    simp [entryToReportData]

theorem Displayed.report_agrees (inv : Displayed toLowercase model)
    (componentVariable : Option (List ComponentVariableType))
    (componentCriteria : Option (List ComponentCriterionEnumType)) :
    ReportAgrees toLowercase model componentVariable componentCriteria
      (reportFiltered toLowercase model.variables_.entries componentVariable componentCriteria) := by
  by_cases asks : AsksForProblem componentCriteria
  · have empty : ∀ iteration,
        reportFiltered toLowercase iteration componentVariable componentCriteria = [] :=
      fun iteration => reportFiltered_problem componentVariable iteration asks
    rw [empty]
    exact ⟨fun iteration _ => empty iteration, fun _ _ _ healthy => absurd asks healthy, by simp, by simp⟩
  · apply inv.report_agrees_of_perm componentVariable asks
    · intro iteration same
      rw [reportFiltered_healthy componentVariable _ asks, reportFiltered_healthy componentVariable _ asks]
      apply sortByKey_eq_of_perm
      · exact (same.filter _).map _
      · intro row shown row' shown' tied
        obtain ⟨e, reported, rfl⟩ := List.mem_map.mp shown
        obtain ⟨e', reported', rfl⟩ := List.mem_map.mp shown'
        have member := same.mem_iff.mp ((mem_reported componentVariable).mp reported).1
        have member' := same.mem_iff.mp ((mem_reported componentVariable).mp reported').1
        rw [inv.reportKey_injective member member' tied]
    · rw [reportFiltered_healthy componentVariable _ asks]
      exact sortByKey_perm _ _

theorem Displayed.of_variables {after : V201DeviceModel} (inv : Displayed toLowercase model)
    (variables_ : after.variables_ = model.variables_) (components : after.components = model.components) :
    Displayed toLowercase after := by
  unfold Displayed
  rw [variables_, components]
  exact inv

end V201DeviceModel

namespace Monitoring

variable {toLowercase}

theorem displayed_installMonitors {s : Monitoring} (inv : V201DeviceModel.Displayed toLowercase s.model)
    (data : List SetMonitoringDataType) :
    V201DeviceModel.Displayed toLowercase (data.foldl (install toLowercase) s).model := by
  induction data generalizing s with
  | nil => exact inv
  | cons data rest ih =>
      obtain ⟨variables_, components⟩ := s.model.installMonitor_variables toLowercase data
      exact ih (inv.of_variables variables_ components)

theorem displayed_step {s t : Monitoring} {action : Action} (inv : V201DeviceModel.Displayed toLowercase s.model)
    (stepped : step toLowercase s action = some t) : V201DeviceModel.Displayed toLowercase t.model := by
  cases action with
  | seed component variable_ attribute_ value policy =>
      obtain rfl := Option.some.inj stepped
      exact inv.seed component variable_ attribute_ value policy
  | set component variable_ attribute_ value =>
      obtain rfl := Option.some.inj stepped
      exact inv.set component variable_ attribute_ value
  | installMonitors data =>
      obtain rfl := Option.some.inj stepped
      exact displayed_installMonitors inv data
  | clearMonitors ids =>
      obtain rfl := Option.some.inj stepped
      obtain ⟨monitors, cleared, -⟩ := s.model.clearMonitors_model ids
      have same : (s.clear ids).model = { s.model with monitors := monitors } := cleared
      rw [same]
      exact inv.of_variables rfl rfl

/-- After every run, reads, writes and reports agree. -/
theorem device_model_agrees (actions : List Action) {s : Monitoring}
    (ran : run (step toLowercase) new actions = some s) :
    (∀ component variable_ attribute_ value,
      SetAgrees toLowercase s.model component variable_ attribute_ value
        (s.model.set toLowercase component variable_ attribute_ value).1
        (s.model.set toLowercase component variable_ attribute_ value).2) ∧
      ∀ componentVariable componentCriteria,
        ReportAgrees toLowercase s.model componentVariable componentCriteria
          (V201DeviceModel.reportFiltered toLowercase s.model.variables_.entries componentVariable
            componentCriteria) := by
  have displayed : V201DeviceModel.Displayed toLowercase s.model := by
    apply run_invariant (fun _ _ _ inv _ => displayed_step inv) _ (Along.always new actions) ran
    intro key entry found
    simp [new, V201DeviceModel.new] at found
  exact ⟨s.model.set_agrees, displayed.report_agrees⟩

def lowered : String → String
  | "Controller" => "controller"
  | "Power" => "power"
  | name => name

def writtenPower : List Action :=
  [.seed "Controller" "Power" .actual "0" ⟨false, true⟩, .seed "Controller" "Limit" .actual "9" ⟨true, false⟩,
    .set ⟨"controller", none, none, none⟩ ⟨"power", none, none⟩ .actual "5"]

theorem writtenPower_agrees : ∃ s, run (step lowered) new writtenPower = some s ∧
    s.model.get lowered ⟨"Controller", none, none, none⟩ ⟨"Power", none, none⟩ .actual = (.accepted, some "5") ∧
    (s.model.set lowered ⟨"controller", none, none, none⟩ ⟨"Power", none, none⟩ .actual "6").1 = .rebootRequired ∧
    (∀ component variable_ attribute_ value,
      SetAgrees lowered s.model component variable_ attribute_ value
        (s.model.set lowered component variable_ attribute_ value).1
        (s.model.set lowered component variable_ attribute_ value).2) ∧
      ∀ componentVariable componentCriteria,
        ReportAgrees lowered s.model componentVariable componentCriteria
          (V201DeviceModel.reportFiltered lowered s.model.variables_.entries componentVariable
            componentCriteria) :=
  ⟨_, rfl, by decide, by decide, device_model_agrees writtenPower rfl⟩

end Monitoring

end Ocpp.ChargePoint
