import Ocpp.ChargePoint.LocalListSpec
import Ocpp.Library.Registers
import Ocpp.Library.Text
import Ocpp.Messages.Configuration

/-!
# The configuration of a charge point

`ConfigurationStore`, the handlers of `ChangeConfiguration` and `GetConfiguration` on it, and the station that
`ChargePoint::new` builds: the capacity of the local authorization list is a read-only key.
-/

namespace Ocpp.Configuration
open Library V16j LocalList

/-! ## The store -/

structure ConfigurationStore where
  keys : HashMap String String
  readonlyKeys : List String

def defaultLocalAuthListMaxLength : Nat := 100

namespace ConfigurationStore

/-- The keys that a new store has, in the order in which they are inserted. -/
def defaults : List (String × String) :=
  [("AuthorizeRemoteTxRequests", "true"), ("ClockAlignedDataInterval", "0"), ("ConnectionTimeOut", "60"),
   ("GetConfigurationMaxKeys", "100"), ("HeartbeatInterval", "86400"), ("LocalAuthListEnabled", "false"),
   ("LocalAuthListMaxLength", toString defaultLocalAuthListMaxLength), ("LocalAuthorizeOffline", "true"),
   ("LocalPreAuthorize", "false"), ("MeterValuesAlignedData", ""),
   ("MeterValuesSampledData", "Energy.Active.Import.Register"), ("MeterValueSampleInterval", "60"),
   ("NumberOfConnectors", "2"), ("ResetRetries", "3"), ("ConnectorPhaseRotation", "NotApplicable"),
   ("StopTransactionOnEVSideDisconnect", "true"), ("StopTransactionOnInvalidId", "true"),
   ("StopTxnAlignedData", ""), ("StopTxnSampledData", ""), ("SupportedFeatureProfiles", "Core"),
   ("TransactionMessageAttempts", "3"), ("TransactionMessageRetryInterval", "60"),
   ("UnlockConnectorOnEVSideDisconnect", "true")]

def new : ConfigurationStore where
  keys := defaults.foldl (fun keys (key, value) => keys.insert key value) ∅
  readonlyKeys := ["NumberOfConnectors", "SupportedFeatureProfiles", "LocalAuthListMaxLength"]

variable (store : ConfigurationStore)

def get (key : String) : Option String :=
  store.keys.lookup key

def isReadonly (key : String) : Bool :=
  key ∈ store.readonlyKeys

def readonlyError (key : String) : String :=
  "Key '" ++ key ++ "' is read-only"

def set (key value : String) : Except String Unit × ConfigurationStore :=
  if store.isReadonly key then (.error (readonlyError key), store)
  else (.ok (), { store with keys := store.keys.insert key value })

def setReadonly (key value : String) : ConfigurationStore where
  keys := store.keys.insert key value
  readonlyKeys := store.readonlyKeys.insert key

/-! ## Handlers -/

def changeConfiguration (request : ChangeConfigurationRequest) : ChangeConfigurationResponse × ConfigurationStore :=
  let (outcome, store) := store.set request.key request.value
  let status : ConfigurationStatus :=
    match outcome with
    | .ok () => .accepted
    | .error e => if Text.contains e.toList "read-only".toList then .rejected else .notSupported
  (⟨status⟩, store)

def keyValue (key value : String) : KeyValue :=
  ⟨key, some value, some (store.isReadonly key)⟩

def getConfiguration (request : GetConfigurationRequest) : GetConfigurationResponse :=
  match request.key with
  | some keys =>
      let (known, unknown) := keys.foldl (fun (known, unknown) key =>
        match store.get key with
        | some value => (known ++ [store.keyValue key value], unknown)
        | none => (known, unknown ++ [key])) ([], [])
      ⟨some known, if unknown.isEmpty then none else some unknown⟩
  | none => ⟨some (store.keys.entries.map fun entry => store.keyValue entry.1 entry.2), none⟩

/-! ## The store as registers -/

def registers : Registers String String :=
  ⟨store.get, store.isReadonly⟩

theorem set_registers (key value : String) :
    (store.set key value).2.registers = store.registers.write (key, value) := by
  have isReadonly : store.registers.readonly key = store.isReadonly key := rfl
  unfold set Registers.write
  rw [isReadonly]
  split_ifs with protected_
  · rfl
  · have lookup : (store.keys.insert key value).lookup = Function.update store.get key (some value) := by
      funext k
      rw [HashMap.lookup_insert, Function.update_apply, get]
    exact congrArg (Registers.mk · store.isReadonly) lookup

theorem setReadonly_registers (key value : String) : (store.setReadonly key value).registers =
    ⟨Function.update store.get key (some value), fun k => k = key || store.isReadonly k⟩ := by
  have lookup : (store.setReadonly key value).get = Function.update store.get key (some value) := by
    funext k
    rw [get, setReadonly, HashMap.lookup_insert, Function.update_apply, get]
  have readonly : (store.setReadonly key value).isReadonly = fun k => k = key || store.isReadonly k := by
    funext k
    simp [isReadonly, setReadonly, List.mem_insert_iff]
  rw [registers, lookup, readonly]

theorem changeConfiguration_registers (request : ChangeConfigurationRequest) :
    (store.changeConfiguration request).2.registers = store.registers.write (request.key, request.value) :=
  store.set_registers request.key request.value

theorem contains_readonlyError (key : String) : Text.contains (readonlyError key).toList "read-only".toList := by
  have tail : "' is " ++ "read-only" = "' is read-only" := by decide
  apply Text.contains_iff.mpr
  refine ⟨("Key '" ++ key ++ "' is ").toList, [], ?_⟩
  rw [List.append_nil, ← String.toList_append, String.append_assoc, tail, readonlyError]

/-- A key is refused only if it is read-only, and never for being unknown. -/
theorem changeConfiguration_status (request : ChangeConfigurationRequest) :
    (store.changeConfiguration request).1.status =
      if store.registers.readonly request.key then .rejected else .accepted := by
  have isReadonly : store.registers.readonly request.key = store.isReadonly request.key := rfl
  unfold changeConfiguration set
  rw [isReadonly]
  split_ifs
  · exact if_pos (contains_readonlyError request.key)
  · rfl

end ConfigurationStore

/-! ## Reports -/

section Reports

/-- What is reported of a key. -/
def entryOf (registers : Registers String String) (key : String) : Option KeyValue :=
  (registers.value key).map fun value => ⟨key, some value, some (registers.readonly key)⟩

/-- What the keys hold is reported: of those that are asked for, in their order, with those that are unknown, or of all
of them once each. -/
def Reports (registers : Registers String String) (request : GetConfigurationRequest)
    (response : GetConfigurationResponse) : Prop :=
  match request.key with
  | some keys =>
      let unknown := keys.filter fun key => (registers.value key).isNone
      response = ⟨some (keys.filterMap (entryOf registers)), if unknown = [] then none else some unknown⟩
  | none => ∃ entries, response = ⟨some entries, none⟩ ∧ (entries.map (·.key)).Nodup ∧
      ∀ entry, entry ∈ entries ↔ entryOf registers entry.key = some entry

theorem entryOf_key {registers : Registers String String} {key : String} {entry : KeyValue}
    (held : entryOf registers key = some entry) : entry.key = key := by
  obtain ⟨value, -, rfl⟩ := Option.map_eq_some_iff.mp held
  rfl

/-- Every entry of a report is what the key holds, and no key that is asked for is left out. -/
theorem Reports.entries {registers : Registers String String} {request : GetConfigurationRequest}
    {response : GetConfigurationResponse} (reports : Reports registers request response) :
    (∀ entry ∈ response.configurationKeys.getD [], entryOf registers entry.key = some entry) ∧
    ∀ key entry, (∀ keys ∈ request.key, key ∈ keys) → entryOf registers key = some entry →
      entry ∈ response.configurationKeys.getD [] := by
  obtain ⟨_ | keys⟩ := request
  · obtain ⟨entries, rfl, -, members⟩ := reports
    refine ⟨fun entry member => (members entry).mp member, fun key entry _ held => ?_⟩
    apply (members entry).mpr
    rw [entryOf_key held, held]
  · rw [show response = _ from reports]
    constructor
    · intro entry member
      obtain ⟨key, -, held⟩ := List.mem_filterMap.mp member
      rw [entryOf_key held, held]
    · intro key entry asked held
      exact List.mem_filterMap.mpr ⟨key, asked keys rfl, held⟩

variable (store : ConfigurationStore)

theorem foldl_known (keys : List String) (known : List KeyValue) (unknown : List String) :
    keys.foldl (fun (known, unknown) key =>
      match store.get key with
      | some value => (known ++ [store.keyValue key value], unknown)
      | none => (known, unknown ++ [key])) (known, unknown) =
    (known ++ keys.filterMap (entryOf store.registers),
      unknown ++ keys.filter fun key => (store.registers.value key).isNone) := by
  induction keys generalizing known unknown with
  | nil => simp
  | cons key rest ih =>
      rw [List.foldl_cons]
      cases held : store.get key with
      | none =>
          have absent : store.registers.value key = none := held
          have entry : entryOf store.registers key = none := Option.map_eq_none_iff.mpr absent
          rw [ih]
          simp [entry, absent]
      | some value =>
          have present : store.registers.value key = some value := held
          have entry : entryOf store.registers key = some (store.keyValue key value) := by
            rw [entryOf, present]
            rfl
          rw [ih]
          simp [entry, present]

theorem getConfiguration_reports (request : GetConfigurationRequest) :
    Reports store.registers request (store.getConfiguration request) := by
  obtain ⟨_ | keys⟩ := request
  · refine ⟨store.keys.entries.map fun entry => store.keyValue entry.1 entry.2, rfl, ?_, fun entry => ?_⟩
    · rw [List.map_map]
      exact store.keys.nodupKeys
    · rw [List.mem_map]
      constructor
      · rintro ⟨⟨key, value⟩, member, rfl⟩
        exact Option.map_eq_some_iff.mpr ⟨value, HashMap.mem_entries.mp member, rfl⟩
      · intro held
        obtain ⟨value, found, same⟩ := Option.map_eq_some_iff.mp held
        exact ⟨⟨entry.key, value⟩, HashMap.mem_entries.mpr found, same⟩
  · have folded := foldl_known store keys [] []
    simp only [List.nil_append] at folded
    simp only [Reports, ConfigurationStore.getConfiguration, folded]
    refine congrArg _ ?_
    simp only [List.isEmpty_iff]

end Reports

/-! ## The station -/

structure Station where
  config : ConfigurationStore
  localList : LocalAuthList

namespace Station

/-- `ChargePoint::new`: the key reports the capacity that the list is given. -/
def new (localAuthListMaxLength : Nat) : Station where
  config := ConfigurationStore.new.setReadonly "LocalAuthListMaxLength" (toString localAuthListMaxLength)
  localList := .withMaxLength localAuthListMaxLength

inductive Action
  | changeConfiguration (request : ChangeConfigurationRequest)
  | setConfigValue (key value : String)
  | sendLocalList (request : LocalList.Request)

def step (s : Station) : Action → Option Station
  | .changeConfiguration request => some { s with config := (s.config.changeConfiguration request).2 }
  | .setConfigValue key value => some { s with config := (s.config.set key value).2 }
  | .sendLocalList request => (s.localList.step request).map ({ s with localList := · })

def Action.written : Action → Option (String × String)
  | changeConfiguration request => some (request.key, request.value)
  | setConfigValue key value => some (key, value)
  | sendLocalList _ => none

theorem step_spec {m : Nat} (s : Station) (action : Action) (within : s.localList.Within m) :
    ∃ t, s.step action = some t ∧ t.config.registers = s.config.registers.writeAll action.written.toList ∧
      t.localList.Within m := by
  cases action with
  | changeConfiguration request => exact ⟨_, rfl, s.config.changeConfiguration_registers request, within⟩
  | setConfigValue key value => exact ⟨_, rfl, s.config.set_registers key value, within⟩
  | sendLocalList request =>
      obtain ⟨answer, status, list, sent, spec, -⟩ := s.localList.send_spec request
      exact ⟨{ s with localList := list }, by simp [step, LocalAuthList.step, sent], rfl, within.applied spec⟩

theorem run_spec {m : Nat} (s : Station) (actions : List Action) (within : s.localList.Within m) :
    ∃ t, run step s actions = some t ∧
      t.config.registers = s.config.registers.writeAll (actions.filterMap Action.written) ∧ t.localList.Within m := by
  induction actions generalizing s with
  | nil => exact ⟨s, rfl, rfl, within⟩
  | cons action rest ih =>
      obtain ⟨t, stepped, written, within⟩ := step_spec s action within
      obtain ⟨u, ran, later, within⟩ := ih t within
      refine ⟨u, (run_cons stepped rest).trans ran, ?_, within⟩
      rw [later, written, List.filterMap_cons]
      cases action.written <;> rfl

/-! ### The capacity of the local authorization list -/

theorem new_capacity (m : Nat) (writes : List (String × String)) :
    entryOf ((new m).config.registers.holding writes) "LocalAuthListMaxLength" =
      some ⟨"LocalAuthListMaxLength", some (toString m), some true⟩ := by
  have registers := ConfigurationStore.new.setReadonly_registers "LocalAuthListMaxLength" (toString m)
  simp only [new, registers, entryOf, Registers.holding, decide_true, Bool.true_or, if_true, Function.update_self,
    Option.map_some]

theorem send_accepted (list : LocalAuthList) (request : LocalList.Request) :
    ∃ answer after, list.send request = some (answer, after) ∧ (answer.Accepted ↔ list.Admits request.stored) := by
  obtain ⟨after, applied, -⟩ := list.apply_answer request.stored
  have admits := list.answer_eq_accepted request.stored
  cases request with
  | v16j request =>
      refine ⟨.v16j (list.answer request), after, ?_, admits⟩
      rw [LocalAuthList.send, show list.apply request = _ from applied]
      rfl
  | v201 request =>
      refine ⟨.v201 (updateStatusToV201 (list.answer (v16jRequestFromV201 request))), after, ?_, ?_⟩
      · rw [LocalAuthList.send, LocalAuthList.applyV201, show list.apply (v16jRequestFromV201 request) = _ from applied]
        rfl
      · rw [← admits, LocalList.Request.stored]
        cases list.answer (v16jRequestFromV201 request) <;> simp [LocalList.Answer.Accepted, updateStatusToV201]

/-- A list of the capacity that is reported would hold what the list holds, and would admit the same requests. -/
def Enforces (s : Station) (reported : KeyValue) : Prop :=
  ∃ n : Nat, reported = ⟨"LocalAuthListMaxLength", some (toString n), some true⟩ ∧
    HashMap.size s.localList.entries ≤ n ∧
    ∀ request, ∃ answer after, s.localList.send request = some (answer, after) ∧
      (answer.Accepted ↔ { s.localList with maxLength := some n }.Admits request.stored)

/-- Whatever the CSMS and the application write and in whatever order, every `GetConfiguration` reports what was written
last of each key that is not read-only, and the capacity of the local authorization list that is enforced. -/
theorem configuration_run (m : Nat) (actions : List Action) : ∃ s, run step (new m) actions = some s ∧
    ∀ request, Reports ((new m).config.registers.holding (actions.filterMap Action.written)) request
        (s.config.getConfiguration request) ∧
      (∀ entry ∈ (s.config.getConfiguration request).configurationKeys.getD [],
        entry.key = "LocalAuthListMaxLength" → s.Enforces entry) ∧
      ((∀ keys ∈ request.key, "LocalAuthListMaxLength" ∈ keys) →
        ∃ entry ∈ (s.config.getConfiguration request).configurationKeys.getD [], s.Enforces entry) := by
  have start : (new m).localList.Within m := ⟨rfl, by simp [new, LocalAuthList.withMaxLength]⟩
  obtain ⟨s, ran, written, within⟩ := run_spec (new m) actions start
  refine ⟨s, ran, fun request => ?_⟩
  have reports := getConfiguration_reports s.config request
  rw [written, Registers.writeAll_eq] at reports
  obtain ⟨held, complete⟩ := reports.entries
  have capacity := new_capacity m (actions.filterMap Action.written)
  have enforced : s.Enforces ⟨"LocalAuthListMaxLength", some (toString m), some true⟩ := by
    refine ⟨m, rfl, within.2, fun request => ?_⟩
    have same : { s.localList with maxLength := some m } = s.localList := by rw [← within.1]
    rw [same]
    exact send_accepted s.localList request
  refine ⟨reports, fun entry member named => ?_, fun asked => ?_⟩
  · have here := held entry member
    rw [named, capacity] at here
    exact Option.some.inj here ▸ enforced
  · exact ⟨_, complete "LocalAuthListMaxLength" _ asked capacity, enforced⟩

end Station

end Ocpp.Configuration
