import Mathlib.Algebra.Ring.Int.Defs
import Mathlib.Algebra.Ring.Nat
import Mathlib.Data.Finset.Basic
import Ocpp.ChargePoint.Station
import Ocpp.Library.Json

/-!
# The 2.0.1 device model and its variable monitors

`v201_device_model.rs`: seeded variables, `SetVariables`, and the monitors on them, which are installed,
replaced by id and cleared in batches, entry by entry. A monitored value is its 64 bits, as `to_bits` gives
them. `to_lowercase` is a parameter.
-/

namespace Ocpp.ChargePoint
open Library

variable (toLowercase : String → String)

structure CustomDataType where
  vendorId : String
  extra : List (String × Json)
deriving DecidableEq

structure EVSEType where
  id : Int
  connectorId : Option Int
  customData : Option CustomDataType
deriving DecidableEq

structure ComponentType where
  name : String
  instance_ : Option String
  evse : Option EVSEType
  customData : Option CustomDataType
deriving DecidableEq

structure VariableType where
  name : String
  instance_ : Option String
  customData : Option CustomDataType
deriving DecidableEq

structure ComponentKey where
  name : String
  instance_ : Option String
  evseId : Option Int
  connectorId : Option Int
deriving DecidableEq

def ComponentKey.fromRequest (component : ComponentType) : ComponentKey where
  name := toLowercase component.name
  instance_ := component.instance_.map toLowercase
  evseId := component.evse.map (·.id)
  connectorId := component.evse.bind (·.connectorId)

structure VariableKey where
  component : ComponentKey
  name : String
  instance_ : Option String
deriving DecidableEq

def VariableKey.fromRequest (component : ComponentType) (variable_ : VariableType) : VariableKey where
  component := .fromRequest toLowercase component
  name := toLowercase variable_.name
  instance_ := variable_.instance_.map toLowercase

structure WritePolicy where
  readOnly : Bool
  rebootRequired : Bool
deriving DecidableEq

inductive AttributeEnumType
  | actual
  | target
  | minSet
  | maxSet
deriving DecidableEq

structure VariableEntry where
  attributes : List (AttributeEnumType × String)
  policy : WritePolicy
  component : ComponentType
  variable_ : VariableType
deriving DecidableEq

inductive MonitorEnumType
  | upperThreshold
  | lowerThreshold
  | delta
  | periodic
  | periodicClockAligned
deriving DecidableEq

structure VariableMonitoringType where
  id : Int
  transaction : Bool
  value : UInt64
  kind : MonitorEnumType
  severity : Int
deriving DecidableEq

structure MonitorEntry where
  key : VariableKey
  component : ComponentType
  variable_ : VariableType
  monitor : VariableMonitoringType
deriving DecidableEq

inductive SetVariableStatusEnumType
  | accepted
  | rejected
  | unknownComponent
  | unknownVariable
  | notSupportedAttributeType
  | rebootRequired
deriving DecidableEq

structure SetMonitoringDataType where
  id : Option Int
  transaction : Option Bool
  value : UInt64
  kind : MonitorEnumType
  severity : Int
  component : ComponentType
  variable_ : VariableType
deriving DecidableEq

inductive SetMonitoringStatusEnumType
  | accepted
  | unknownComponent
  | unknownVariable
  | unsupportedMonitorType
  | rejected
  | duplicate
deriving DecidableEq

structure SetMonitoringResultType where
  id : Option Int
  status : SetMonitoringStatusEnumType
  kind : MonitorEnumType
  component : ComponentType
  variable_ : VariableType
  severity : Int
deriving DecidableEq

def SetMonitoringDataType.monitor (data : SetMonitoringDataType) (id : Int) : VariableMonitoringType where
  id
  transaction := data.transaction.getD false
  value := data.value
  kind := data.kind
  severity := data.severity

/-- The entry is on the variable and agrees with the request in kind, severity and bits of the value. -/
def MonitorEntry.sameAs (entry : MonitorEntry) (variableKey : VariableKey) (data : SetMonitoringDataType) :
    Bool :=
  entry.key = variableKey && entry.monitor.kind = data.kind && entry.monitor.severity = data.severity &&
    entry.monitor.value = data.value

inductive ClearMonitoringStatusEnumType
  | accepted
  | rejected
  | notFound
deriving DecidableEq

structure ClearMonitoringResultType where
  status : ClearMonitoringStatusEnumType
  id : Int
deriving DecidableEq

structure V201DeviceModel where
  components : Finset ComponentKey
  variables_ : HashMap VariableKey VariableEntry
  monitors : HashMap Int MonitorEntry
  lastMonitorId : Int

namespace V201DeviceModel

def new : V201DeviceModel where
  components := ∅
  variables_ := ∅
  monitors := ∅
  lastMonitorId := 0

/-! ## Variables -/

/-- The attribute of the vector is set, or pushed if it is not there. -/
def setAttribute (attribute_ : AttributeEnumType) (value : String) :
    List (AttributeEnumType × String) → List (AttributeEnumType × String)
  | [] => [(attribute_, value)]
  | slot :: slots =>
      if slot.1 = attribute_ then (attribute_, value) :: slots else slot :: setAttribute attribute_ value slots

def seedStationVariable (model : V201DeviceModel) (component variable_ : String)
    (attribute_ : AttributeEnumType) (value : String) (policy : WritePolicy) : V201DeviceModel :=
  let componentKey : ComponentKey := ⟨toLowercase component, none, none, none⟩
  let variableKey : VariableKey := ⟨componentKey, toLowercase variable_, none⟩
  let entry := (model.variables_.lookup variableKey).getD
    { attributes := []
      policy
      component := ⟨component, none, none, none⟩
      variable_ := ⟨variable_, none, none⟩ }
  { model with
    components := insert componentKey model.components
    variables_ := model.variables_.insert variableKey
      { entry with policy, attributes := setAttribute attribute_ value entry.attributes } }

def set (model : V201DeviceModel) (component : ComponentType) (variable_ : VariableType)
    (attribute_ : AttributeEnumType) (value : String) : SetVariableStatusEnumType × V201DeviceModel :=
  if .fromRequest toLowercase component ∉ model.components then (.unknownComponent, model)
  else
    let variableKey := VariableKey.fromRequest toLowercase component variable_
    match model.variables_.lookup variableKey with
    | none => (.unknownVariable, model)
    | some entry =>
        if entry.attributes.all (·.1 ≠ attribute_) then (.notSupportedAttributeType, model)
        else if entry.policy.readOnly then (.rejected, model)
        else
          let written := { entry with attributes := setAttribute attribute_ value entry.attributes }
          (if entry.policy.rebootRequired then .rebootRequired else .accepted,
            { model with variables_ := model.variables_.insert variableKey written })

/-! ## Monitors -/

def installMonitor (model : V201DeviceModel) (data : SetMonitoringDataType) :
    SetMonitoringResultType × V201DeviceModel :=
  let result status id : SetMonitoringResultType :=
    ⟨id, status, data.kind, data.component, data.variable_, data.severity⟩
  if .fromRequest toLowercase data.component ∉ model.components then
    (result .unknownComponent none, model)
  else
    let variableKey := VariableKey.fromRequest toLowercase data.component data.variable_
    if (model.variables_.lookup variableKey).isNone then (result .unknownVariable none, model)
    else
      match data.id with
      | some id =>
          match model.monitors.lookup id with
          | some entry =>
              if entry.key = variableKey then
                (result .accepted (some id),
                  { model with monitors := model.monitors.insert id { entry with monitor := data.monitor id } })
              else (result .rejected none, model)
          | none => (result .rejected none, model)
      | none =>
          if model.monitors.entries.any fun e => e.2.sameAs variableKey data then
            (result .duplicate none, model)
          else
            let id := wrappingSucc model.lastMonitorId
            (result .accepted (some id),
              { model with
                lastMonitorId := id
                monitors := model.monitors.insert id
                  ⟨variableKey, data.component, data.variable_, data.monitor id⟩ })

def installMonitors (model : V201DeviceModel) :
    List SetMonitoringDataType → List SetMonitoringResultType × V201DeviceModel
  | [] => ([], model)
  | data :: rest =>
      let (result, next) := installMonitor toLowercase model data
      let (results, last) := installMonitors next rest
      (result :: results, last)

def clearMonitors (model : V201DeviceModel) :
    List Int → List ClearMonitoringResultType × V201DeviceModel
  | [] => ([], model)
  | id :: rest =>
      let status := if (model.monitors.lookup id).isSome then .accepted else .notFound
      let (results, last) := clearMonitors { model with monitors := model.monitors.erase id } rest
      (⟨status, id⟩ :: results, last)

/-! ## Clearing -/

theorem clearMonitors_ids (model : V201DeviceModel) (ids : List Int) :
    (model.clearMonitors ids).1.map (·.id) = ids := by
  induction ids generalizing model with
  | nil => rfl
  | cons id rest ih =>
      simp only [clearMonitors, List.map_cons, List.cons.injEq, true_and]
      exact ih _

theorem clearMonitors_model (model : V201DeviceModel) (ids : List Int) :
    ∃ monitors, (model.clearMonitors ids).2 = { model with monitors := monitors } ∧
      ∀ k, monitors.lookup k = if k ∈ ids then none else model.monitors.lookup k := by
  induction ids generalizing model with
  | nil => exact ⟨model.monitors, rfl, fun k => by simp⟩
  | cons id rest ih =>
      obtain ⟨monitors, cleared, lookup⟩ := ih { model with monitors := model.monitors.erase id }
      refine ⟨monitors, cleared, fun k => ?_⟩
      rw [lookup]
      by_cases same : k = id
      · subst same
        simp
      · simp [same, AList.lookup_erase_ne]

theorem clearMonitors_status (model : V201DeviceModel) (ids : List Int) {i : Nat}
    {result : ClearMonitoringResultType} (answered : (model.clearMonitors ids).1[i]? = some result) :
    result.status = .accepted ↔ (model.monitors.lookup result.id).isSome ∧ result.id ∉ ids.take i := by
  induction ids generalizing model i with
  | nil => cases answered
  | cons id rest ih =>
      cases i with
      | zero =>
          obtain rfl := Option.some.inj answered
          cases model.monitors.lookup id <;> simp
      | succ i =>
          simp only [clearMonitors, List.getElem?_cons_succ] at answered
          rw [ih _ answered, List.take_succ_cons, List.mem_cons, not_or]
          by_cases same : result.id = id
          · subst same
            simp
          · simp [same, AList.lookup_erase_ne]

/-! ## Installing -/

/-- What an install can do: nothing, replace a monitor on its variable, or add one under a new id. -/
theorem installMonitor_cases (model : V201DeviceModel) (data : SetMonitoringDataType) :
    ((installMonitor toLowercase model data).2 = model ∧
        (data.id = none → (installMonitor toLowercase model data).1.id = none)) ∨
      (∃ id entry, data.id = some id ∧ model.monitors.lookup id = some entry ∧
        entry.key = .fromRequest toLowercase data.component data.variable_ ∧
        (installMonitor toLowercase model data).2 =
          { model with monitors := model.monitors.insert id { entry with monitor := data.monitor id } }) ∨
      (data.id = none ∧
        (model.variables_.lookup (.fromRequest toLowercase data.component data.variable_)).isSome ∧
        (∀ id entry, model.monitors.lookup id = some entry →
          entry.sameAs (.fromRequest toLowercase data.component data.variable_) data = false) ∧
        (installMonitor toLowercase model data).1.id = some (wrappingSucc model.lastMonitorId) ∧
        (installMonitor toLowercase model data).2 =
          { model with
            lastMonitorId := wrappingSucc model.lastMonitorId
            monitors := model.monitors.insert (wrappingSucc model.lastMonitorId)
              ⟨.fromRequest toLowercase data.component data.variable_, data.component, data.variable_,
                data.monitor (wrappingSucc model.lastMonitorId)⟩ }) := by
  fun_cases installMonitor toLowercase model data
  case case1 => exact .inl ⟨rfl, fun _ => rfl⟩
  case case2 => exact .inl ⟨rfl, fun _ => rfl⟩
  case case3 known variableKey exists_ id replaces entry held same =>
    exact .inr (.inl ⟨id, entry, replaces, held, same, rfl⟩)
  case case4 => exact .inl ⟨rfl, fun _ => rfl⟩
  case case5 => exact .inl ⟨rfl, fun _ => rfl⟩
  case case6 => exact .inl ⟨rfl, fun _ => rfl⟩
  case case7 known variableKey exists_ fresh new id =>
    refine .inr (.inr ⟨fresh, ?_, ?_, rfl, rfl⟩)
    · exact Option.isSome_iff_ne_none.mpr (by simpa using exists_)
    · intro id entry held
      by_contra same
      apply new
      rw [List.any_eq_true]
      exact ⟨⟨id, entry⟩, AList.mem_lookup_iff.mp held, by simpa using same⟩

end V201DeviceModel

/-! ## Runs -/

/-- The model, the ids assigned to new monitors so far and those that were cleared. -/
structure Monitoring where
  model : V201DeviceModel
  assigned : List Int
  cleared : List Int

namespace Monitoring

def new : Monitoring where
  model := .new
  assigned := []
  cleared := []

/-- One entry of `install_monitors`; an entry without an id that is accepted is given a new one. -/
def install (s : Monitoring) (data : SetMonitoringDataType) : Monitoring :=
  let (result, model) := s.model.installMonitor toLowercase data
  { s with
    model
    assigned := if data.id.isNone then s.assigned ++ result.id.toList else s.assigned }

def clear (s : Monitoring) (ids : List Int) : Monitoring :=
  let (results, model) := s.model.clearMonitors ids
  { s with
    model
    cleared := s.cleared ++ (results.filter (·.status = .accepted)).map (·.id) }

inductive Action
  | seed (component variable_ : String) (attribute_ : AttributeEnumType) (value : String) (policy : WritePolicy)
  | set (component : ComponentType) (variable_ : VariableType) (attribute_ : AttributeEnumType) (value : String)
  | installMonitors (data : List SetMonitoringDataType)
  | clearMonitors (ids : List Int)

def step (s : Monitoring) : Action → Option Monitoring
  | .seed component variable_ attribute_ value policy =>
      some { s with model := s.model.seedStationVariable toLowercase component variable_ attribute_ value policy }
  | .set component variable_ attribute_ value =>
      some { s with model := (s.model.set toLowercase component variable_ attribute_ value).2 }
  | .installMonitors data => some (data.foldl (install toLowercase) s)
  | .clearMonitors ids => some (s.clear ids)

theorem installMonitors_model (s : Monitoring) (data : List SetMonitoringDataType) :
    (data.foldl (install toLowercase) s).model = (s.model.installMonitors toLowercase data).2 := by
  induction data generalizing s with
  | nil => rfl
  | cons data rest ih => exact ih _

structure Kept (s : Monitoring) : Prop where
  keyed : ∀ id entry, s.model.monitors.lookup id = some entry →
    entry.monitor.id = id ∧ 1 ≤ id ∧ id ≤ s.model.lastMonitorId
  known : ∀ id entry, s.model.monitors.lookup id = some entry → (s.model.variables_.lookup entry.key).isSome
  once : s.assigned.Nodup
  retired : ∀ id ∈ s.cleared, id ∈ s.assigned ∧ s.model.monitors.lookup id = none
  distinct : ∀ id id' entry entry', s.model.monitors.lookup id = some entry →
    s.model.monitors.lookup id' = some entry' → entry.key = entry'.key →
    entry.monitor.kind = entry'.monitor.kind → entry.monitor.severity = entry'.monitor.severity →
    entry.monitor.value = entry'.monitor.value → id = id'

/-- `clear_monitors` accepts the first occurrence of each stored id and touches no other monitor. -/
def ClearsExactly (model : V201DeviceModel) : Prop :=
  ∀ ids, (model.clearMonitors ids).1.map (·.id) = ids ∧
    (∀ i result, (model.clearMonitors ids).1[i]? = some result →
      (result.status = .accepted ↔ (model.monitors.lookup result.id).isSome ∧ result.id ∉ ids.take i)) ∧
    ∃ monitors, (model.clearMonitors ids).2 = { model with monitors := monitors } ∧
      ∀ id, monitors.lookup id = if id ∈ ids then none else model.monitors.lookup id

theorem clearsExactly (model : V201DeviceModel) : ClearsExactly model :=
  fun ids => ⟨model.clearMonitors_ids ids, fun _ _ => model.clearMonitors_status ids, model.clearMonitors_model ids⟩

/-- A replaced monitor does not become the same as another one on its variable. -/
def Distinguishes (s : Monitoring) (data : SetMonitoringDataType) : Prop :=
  ∀ id entry, data.id = some id → s.model.monitors.lookup id = some entry →
    entry.key = .fromRequest toLowercase data.component data.variable_ →
    ∀ id' other, id' ≠ id → s.model.monitors.lookup id' = some other →
      other.sameAs (.fromRequest toLowercase data.component data.variable_) data = false

def Distinguishing (s : Monitoring) : Action → Prop
  | .installMonitors data =>
      Along (fun s data => some (install toLowercase s data)) (Distinguishes toLowercase) s data
  | _ => True

/-- The invariant with what links the assigned ids to the counter. -/
structure Numbered (s : Monitoring) : Prop extends Kept s where
  counted : s.model.lastMonitorId = s.assigned.length
  bounded : ∀ id ∈ s.assigned, 1 ≤ id ∧ id ≤ s.model.lastMonitorId
  stored : ∀ id entry, s.model.monitors.lookup id = some entry → id ∈ s.assigned

theorem numbered_new : Numbered new := by
  constructor
  · constructor <;> simp [new, V201DeviceModel.new]
  all_goals simp [new, V201DeviceModel.new]

theorem wrappingSucc_eq {n : Nat} (small : n + 1 < 2 ^ 31 - 1) : wrappingSucc n = n + 1 := by
  rw [wrappingSucc, BitVec.toInt_ofInt, Int.bmod_eq_of_le] <;> omega

variable {toLowercase}

theorem distinguishes_fresh {s : Monitoring} {data : SetMonitoringDataType} (fresh : data.id = none) :
    Distinguishes toLowercase s data := by
  intro id entry replaces
  rw [fresh] at replaces
  cases replaces

namespace Numbered

variable {s t : Monitoring}

theorem of_variables (inv : Numbered s) (monitors : t.model.monitors = s.model.monitors)
    (last : t.model.lastMonitorId = s.model.lastMonitorId) (assigned : t.assigned = s.assigned)
    (cleared : t.cleared = s.cleared)
    (variables_ : ∀ key, (s.model.variables_.lookup key).isSome → (t.model.variables_.lookup key).isSome) :
    Numbered t where
  keyed := by simpa only [monitors, last] using inv.keyed
  known := by
    rw [monitors]
    exact fun id entry held => variables_ entry.key (inv.known id entry held)
  once := by simpa only [assigned] using inv.once
  retired := by simpa only [assigned, cleared, monitors] using inv.retired
  distinct := by simpa only [monitors] using inv.distinct
  counted := by simpa only [last, assigned] using inv.counted
  bounded := by simpa only [last, assigned] using inv.bounded
  stored := by simpa only [monitors, assigned] using inv.stored

theorem seed (inv : Numbered s) (component variable_ : String) (attribute_ : AttributeEnumType)
    (value : String) (policy : WritePolicy) : Numbered { s with
      model := s.model.seedStationVariable toLowercase component variable_ attribute_ value policy } :=
  inv.of_variables rfl rfl rfl rfl (fun _ => HashMap.lookup_insert_isSome)

theorem set (inv : Numbered s) (component : ComponentType) (variable_ : VariableType)
    (attribute_ : AttributeEnumType) (value : String) : Numbered { s with
      model := (s.model.set toLowercase component variable_ attribute_ value).2 } := by
  fun_cases V201DeviceModel.set toLowercase s.model component variable_ attribute_ value
  case case5 => exact inv.of_variables rfl rfl rfl rfl (fun _ => HashMap.lookup_insert_isSome)
  all_goals exact inv

theorem clear (inv : Numbered s) (ids : List Int) : Numbered (s.clear ids) := by
  obtain ⟨monitors, cleared, lookup⟩ := s.model.clearMonitors_model ids
  have held : ∀ id entry, monitors.lookup id = some entry → s.model.monitors.lookup id = some entry := by
    intro id entry found
    rw [lookup] at found
    split_ifs at found
    exact found
  have changed : s.clear ids = { s with
      model := { s.model with monitors := monitors }
      cleared := s.cleared ++ ((s.model.clearMonitors ids).1.filter (·.status = .accepted)).map (·.id) } := by
    simp only [Monitoring.clear, cleared]
  rw [changed]
  constructor
  · constructor
    · exact fun id entry found => inv.keyed id entry (held id entry found)
    · exact fun id entry found => inv.known id entry (held id entry found)
    · exact inv.once
    · intro id member
      obtain member | new := List.mem_append.mp member
      · obtain ⟨assigned, gone⟩ := inv.retired id member
        refine ⟨assigned, ?_⟩
        change monitors.lookup id = none
        rw [lookup, gone, ite_self]
      · obtain ⟨result, answered, rfl⟩ := List.mem_map.mp new
        obtain ⟨answered, accepted⟩ := List.mem_filter.mp answered
        obtain ⟨i, bound, at_⟩ := List.getElem_of_mem answered
        have status := (s.model.clearMonitors_status ids (List.getElem?_eq_some_iff.mpr ⟨bound, at_⟩)).mp
          (by simpa using accepted)
        obtain ⟨entry, stored⟩ := Option.isSome_iff_exists.mp status.1
        refine ⟨inv.stored result.id entry stored, ?_⟩
        have asked : result.id ∈ ids := by
          rw [← s.model.clearMonitors_ids ids]
          exact List.mem_map_of_mem answered
        change monitors.lookup result.id = none
        rw [lookup, if_pos asked]
    · intro id id' entry entry' first second
      exact inv.distinct id id' entry entry' (held id entry first) (held id' entry' second)
  · exact inv.counted
  · exact inv.bounded
  · exact fun id entry found => inv.stored id entry (held id entry found)

theorem store (inv : Numbered s) {data : SetMonitoringDataType} {id last : Int} {entry : MonitorEntry}
    {assigned : List Int} (monitor : entry.monitor = data.monitor id)
    (known : (s.model.variables_.lookup entry.key).isSome)
    (apart : ∀ id' other, id' ≠ id → s.model.monitors.lookup id' = some other →
      other.sameAs entry.key data = false)
    (uncleared : id ∉ s.cleared) (grown : s.model.lastMonitorId ≤ last) (kept : s.assigned ⊆ assigned)
    (own : id ∈ assigned) (once : assigned.Nodup) (counted : last = assigned.length)
    (bounded : ∀ id ∈ assigned, 1 ≤ id ∧ id ≤ last) : Numbered { s with
      model := { s.model with lastMonitorId := last, monitors := s.model.monitors.insert id entry }
      assigned := assigned } := by
  have found : ∀ id' other, (s.model.monitors.insert id entry).lookup id' = some other →
      id' = id ∧ entry = other ∨ id' ≠ id ∧ s.model.monitors.lookup id' = some other :=
    fun _ _ => HashMap.lookup_insert_eq_some.mp
  -- the stored monitor agrees with no other
  have alone : ∀ id' other, id' ≠ id → s.model.monitors.lookup id' = some other → other.key = entry.key →
      other.monitor.kind = entry.monitor.kind → other.monitor.severity = entry.monitor.severity →
      other.monitor.value ≠ entry.monitor.value := by
    intro id' other different stored key kind severity value
    rw [monitor] at kind severity value
    have same := apart id' other different stored
    simp [MonitorEntry.sameAs, key, show other.monitor.kind = data.kind from kind,
      show other.monitor.severity = data.severity from severity,
      show other.monitor.value = data.value from value] at same
  constructor
  · constructor
    · intro id' other lookup
      obtain ⟨rfl, rfl⟩ | ⟨-, stored⟩ := found id' other lookup
      · exact ⟨by rw [monitor]; rfl, bounded id' own⟩
      · obtain ⟨named, low, high⟩ := inv.keyed id' other stored
        exact ⟨named, low, high.trans grown⟩
    · intro id' other lookup
      obtain ⟨rfl, rfl⟩ | ⟨-, stored⟩ := found id' other lookup
      · exact known
      · exact inv.known id' other stored
    · exact once
    · intro id' member
      obtain ⟨before, gone⟩ := inv.retired id' member
      refine ⟨kept before, ?_⟩
      have different : id' ≠ id := by
        rintro rfl
        exact uncleared member
      exact (AList.lookup_insert_ne different).trans gone
    · intro id₁ id₂ entry₁ entry₂ first second key kind severity value
      obtain ⟨rfl, rfl⟩ | ⟨different₁, stored₁⟩ := found id₁ entry₁ first
      · obtain ⟨rfl, -⟩ | ⟨different₂, stored₂⟩ := found id₂ entry₂ second
        · rfl
        · exact absurd value.symm (alone id₂ entry₂ different₂ stored₂ key.symm kind.symm severity.symm)
      · obtain ⟨rfl, rfl⟩ | ⟨-, stored₂⟩ := found id₂ entry₂ second
        · exact absurd value (alone id₁ entry₁ different₁ stored₁ key kind severity)
        · exact inv.distinct id₁ id₂ entry₁ entry₂ stored₁ stored₂ key kind severity value
  · exact counted
  · exact bounded
  · intro id' other lookup
    obtain ⟨rfl, -⟩ | ⟨-, stored⟩ := found id' other lookup
    · exact own
    · exact kept (inv.stored id' other stored)

theorem replace (inv : Numbered s) {data : SetMonitoringDataType} {id : Int} {entry : MonitorEntry}
    (held : s.model.monitors.lookup id = some entry)
    (apart : ∀ id' other, id' ≠ id → s.model.monitors.lookup id' = some other →
      other.sameAs entry.key data = false) : Numbered { s with
      model := { s.model with
        monitors := s.model.monitors.insert id { entry with monitor := data.monitor id } } } := by
  have uncleared : id ∉ s.cleared := by
    intro member
    rw [(inv.retired id member).2] at held
    cases held
  exact inv.store rfl (inv.known id entry held) apart uncleared le_rfl (List.Subset.refl _)
    (inv.stored id entry held) inv.once inv.counted inv.bounded

theorem add (inv : Numbered s) {data : SetMonitoringDataType} {key : VariableKey}
    (known : (s.model.variables_.lookup key).isSome)
    (apart : ∀ id entry, s.model.monitors.lookup id = some entry → entry.sameAs key data = false)
    (few : s.assigned.length + 1 < 2 ^ 31 - 1) : Numbered { s with
      model := { s.model with
        lastMonitorId := wrappingSucc s.model.lastMonitorId
        monitors := s.model.monitors.insert (wrappingSucc s.model.lastMonitorId)
          ⟨key, data.component, data.variable_, data.monitor (wrappingSucc s.model.lastMonitorId)⟩ }
      assigned := s.assigned ++ [wrappingSucc s.model.lastMonitorId] } := by
  have counted := inv.counted
  have next : wrappingSucc s.model.lastMonitorId = s.model.lastMonitorId + 1 := by
    rw [counted]
    exact wrappingSucc_eq few
  rw [next]
  generalize fresh : s.model.lastMonitorId + 1 = new
  have grown : s.model.lastMonitorId ≤ new := by omega
  have unassigned : new ∉ s.assigned := by
    intro member
    have bound := (inv.bounded new member).2
    omega
  have own : new ∈ s.assigned ++ [new] := List.mem_append_right _ (List.mem_singleton.mpr rfl)
  refine inv.store rfl known (fun id entry _ => apart id entry)
    (fun member => unassigned (inv.retired new member).1) grown (List.subset_append_left _ _) own ?_ ?_ ?_
  · rw [List.nodup_append]
    refine ⟨inv.once, List.nodup_singleton _, ?_⟩
    rintro id member _ last rfl
    rw [List.mem_singleton.mp last] at member
    exact unassigned member
  · simp only [List.length_append, List.length_singleton]
    push_cast
    omega
  · intro id member
    obtain member | last := List.mem_append.mp member
    · obtain ⟨low, high⟩ := inv.bounded id member
      exact ⟨low, high.trans grown⟩
    · rw [List.mem_singleton.mp last]
      exact ⟨by omega, le_rfl⟩

theorem install (inv : Numbered s) {data : SetMonitoringDataType} (distinguishes : Distinguishes toLowercase s data)
    (few : (s.install toLowercase data).assigned.length < 2 ^ 31 - 1) :
    Numbered (s.install toLowercase data) := by
  obtain ⟨unchanged, unnumbered⟩ | ⟨id, entry, replaces, held, same, replaced⟩ |
    ⟨fresh, known, apart, numbered, added⟩ := s.model.installMonitor_cases toLowercase data
  · have kept : s.install toLowercase data = s := by
      cases asked : data.id <;> simp [Monitoring.install, unchanged, unnumbered, asked]
    rwa [kept]
  · have changed : s.install toLowercase data = { s with
        model := { s.model with
          monitors := s.model.monitors.insert id { entry with monitor := data.monitor id } } } := by
      simp [Monitoring.install, replaced, replaces]
    rw [changed]
    apply inv.replace held
    rw [same]
    exact distinguishes id entry replaces held same
  · have changed : s.install toLowercase data = { s with
        model := (s.model.installMonitor toLowercase data).2
        assigned := s.assigned ++ [wrappingSucc s.model.lastMonitorId] } := by
      simp [Monitoring.install, numbered, fresh]
    rw [changed] at few ⊢
    rw [added]
    apply inv.add known apart
    simpa using few

end Numbered

theorem install_grows (s : Monitoring) (data : SetMonitoringDataType) :
    s.assigned.length ≤ (s.install toLowercase data).assigned.length := by
  simp only [install]
  split
  · simp
  · exact le_rfl

theorem run_install (s : Monitoring) (data : List SetMonitoringDataType) :
    run (fun s data => some (install toLowercase s data)) s data = some (data.foldl (install toLowercase) s) := by
  induction data generalizing s with
  | nil => rfl
  | cons data rest ih => exact ih _

/-- The invariant, as long as the counter has not run through the ids. -/
def NumberedWhileFew (s : Monitoring) : Prop :=
  s.assigned.length < 2 ^ 31 - 1 → Numbered s

theorem numbered_installMonitors {s : Monitoring} {data : List SetMonitoringDataType}
    (inv : NumberedWhileFew s)
    (distinguishing : Along (fun s data => some (install toLowercase s data)) (Distinguishes toLowercase) s data) :
    NumberedWhileFew (data.foldl (install toLowercase) s) := by
  refine run_invariant ?_ inv distinguishing (run_install s data)
  rintro s data _ inv distinguishes ⟨⟩ few
  exact (inv ((install_grows s data).trans_lt few)).install distinguishes few

theorem numbered_step {s t : Monitoring} {action : Action} (inv : NumberedWhileFew s)
    (distinguishing : Distinguishing toLowercase s action) (stepped : step toLowercase s action = some t) :
    NumberedWhileFew t := by
  cases action with
  | seed component variable_ attribute_ value policy =>
      obtain rfl := Option.some.inj stepped
      exact fun few => (inv few).seed component variable_ attribute_ value policy
  | set component variable_ attribute_ value =>
      obtain rfl := Option.some.inj stepped
      exact fun few => (inv few).set component variable_ attribute_ value
  | installMonitors data =>
      obtain rfl := Option.some.inj stepped
      exact numbered_installMonitors inv distinguishing
  | clearMonitors ids =>
      obtain rfl := Option.some.inj stepped
      exact fun few => (inv few).clear ids

theorem monitors_kept {actions : List Action} {s : Monitoring}
    (along : Along (step toLowercase) (Distinguishing toLowercase) new actions)
    (ran : run (step toLowercase) new actions = some s) (few : s.assigned.length < 2 ^ 31 - 1) :
    Kept s ∧ ClearsExactly s.model := by
  have numbered : Numbered s :=
    run_invariant (fun _ _ _ => numbered_step) (fun _ => numbered_new) along ran few
  exact ⟨numbered.toKept, clearsExactly s.model⟩

def powerMonitor (id : Option Int) (severity : Int) : SetMonitoringDataType where
  id
  transaction := none
  value := 0x40c7700000000000
  kind := .upperThreshold
  severity
  component := ⟨"controller", none, none, none⟩
  variable_ := ⟨"power", none, none⟩

def seedPower : Action :=
  .seed "controller" "power" .actual "0" ⟨false, false⟩

def clearedMonitors : List Action :=
  [seedPower, .installMonitors [powerMonitor none 1, powerMonitor none 2, powerMonitor none 1],
    .clearMonitors [2, 2], .installMonitors [powerMonitor (some 1) 2]]

theorem clearedMonitors_kept : ∃ s, run (step id) new clearedMonitors = some s ∧ s.assigned = [1, 2] ∧
    s.cleared = [2] ∧ Kept s ∧ ClearsExactly s.model := by
  have along : Along (step id) (Distinguishing id) new clearedMonitors := by
    refine .cons trivial rfl (.cons ?_ rfl (.cons trivial rfl (.cons ?_ rfl trivial)))
    · exact ⟨distinguishes_fresh rfl, fun _ _ => ⟨distinguishes_fresh rfl, fun _ _ => ⟨distinguishes_fresh rfl,
        fun _ _ => trivial⟩⟩⟩
    · refine ⟨?_, fun _ _ => trivial⟩
      rintro _ entry ⟨⟩ held own id' other different stored
      have only : id' ∈ [1] := List.mem_map_of_mem (f := Sigma.fst) (AList.mem_lookup_iff.mp stored)
      exact absurd (List.mem_singleton.mp only) different
  exact ⟨_, rfl, rfl, rfl, monitors_kept along rfl (by decide)⟩

def replacedMonitors : List Action :=
  [seedPower, .installMonitors [powerMonitor none 1, powerMonitor none 2, powerMonitor (some 2) 1]]

theorem replacedMonitors_equal : ∃ s, run (step id) new replacedMonitors = some s ∧ s.assigned = [1, 2] ∧
    ¬ Kept s := by
  refine ⟨_, rfl, rfl, fun kept => ?_⟩
  have same := kept.distinct 1 2 _ _ rfl rfl rfl rfl rfl rfl
  exact absurd same (by decide)

end Monitoring

end Ocpp.ChargePoint
