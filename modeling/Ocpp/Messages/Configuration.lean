import Ocpp.Messages.Deserialization

/-!
# Payloads that read and write the configuration

`ChangeConfiguration` and `GetConfiguration` of 1.6J, with the serialisers and decoders that are derived for them.
-/

namespace Ocpp.V16j
open Library

inductive ConfigurationStatus
  | accepted
  | rejected
  | rebootRequired
  | notSupported
  deriving DecidableEq, Repr

def ConfigurationStatus.ofVariant : String → Option ConfigurationStatus
  | "Accepted" => some .accepted
  | "Rejected" => some .rejected
  | "RebootRequired" => some .rebootRequired
  | "NotSupported" => some .notSupported
  | _ => none

def ConfigurationStatus.toVariant : ConfigurationStatus → String
  | .accepted => "Accepted"
  | .rejected => "Rejected"
  | .rebootRequired => "RebootRequired"
  | .notSupported => "NotSupported"

/-! ## ChangeConfiguration -/

structure ChangeConfigurationRequest where
  key : String
  value : String
  deriving DecidableEq, Repr

def ChangeConfigurationRequest.toJson (request : ChangeConfigurationRequest) : Json := .object
  [("key", .string request.key), ("value", .string request.value)]

def ChangeConfigurationRequest.fromJson (value : Json) : Option ChangeConfigurationRequest := do
  let fields ← value.structFields ["key", "value"]
  return {
    key := ← Json.requiredField fields "key" Json.asStr
    value := ← Json.requiredField fields "value" Json.asStr }

structure ChangeConfigurationResponse where
  status : ConfigurationStatus
  deriving DecidableEq, Repr

def ChangeConfigurationResponse.toJson (response : ChangeConfigurationResponse) : Json := .object
  [("status", .string response.status.toVariant)]

def ChangeConfigurationResponse.fromJson (value : Json) : Option ChangeConfigurationResponse := do
  let fields ← value.structFields ["status"]
  return { status := ← Json.requiredField fields "status" (Json.decodeVariant ConfigurationStatus.ofVariant) }

theorem ChangeConfigurationRequest.fromJson_toJson (request : ChangeConfigurationRequest) :
    fromJson request.toJson = some request := rfl

theorem ChangeConfigurationResponse.fromJson_toJson (response : ChangeConfigurationResponse) :
    fromJson response.toJson = some response := by
  obtain ⟨status⟩ := response
  cases status <;> rfl

/-! ## GetConfiguration -/

structure KeyValue where
  key : String
  value : Option String
  readonly : Option Bool
  deriving DecidableEq, Repr

def KeyValue.toJson (entry : KeyValue) : Json := .object <| Json.present
  [("key", some (.string entry.key)), ("readonly", entry.readonly.map .bool), ("value", entry.value.map .string)]

def KeyValue.fromJson (value : Json) : Option KeyValue := do
  let fields ← value.structFields ["key", "value", "readonly"]
  return {
    key := ← Json.requiredField fields "key" Json.asStr
    value := ← Json.optionalField fields "value" Json.asStr
    readonly := ← Json.optionalField fields "readonly" Json.asBool }

/-- Without `key`, all keys are asked for. -/
structure GetConfigurationRequest where
  key : Option (List String)
  deriving DecidableEq, Repr

def GetConfigurationRequest.toJson (request : GetConfigurationRequest) : Json := .object <| Json.present
  [("key", request.key.map fun keys => .array (keys.map .string))]

def GetConfigurationRequest.fromJson (value : Json) : Option GetConfigurationRequest := do
  let fields ← value.structFields ["key"]
  return { key := ← Json.optionalField fields "key" (Json.decodeVec Json.asStr) }

structure GetConfigurationResponse where
  configurationKeys : Option (List KeyValue)
  unknownKeys : Option (List String)
  deriving DecidableEq, Repr

def GetConfigurationResponse.toJson (response : GetConfigurationResponse) : Json := .object <| Json.present
  [("configurationKey", response.configurationKeys.map fun entries => .array (entries.map KeyValue.toJson)),
   ("unknownKey", response.unknownKeys.map fun keys => .array (keys.map .string))]

def GetConfigurationResponse.fromJson (value : Json) : Option GetConfigurationResponse := do
  let fields ← value.structFields ["configurationKey", "unknownKey"]
  return {
    configurationKeys := ← Json.optionalField fields "configurationKey" (Json.decodeVec KeyValue.fromJson)
    unknownKeys := ← Json.optionalField fields "unknownKey" (Json.decodeVec Json.asStr) }

theorem KeyValue.fromJson_toJson (entry : KeyValue) : fromJson entry.toJson = some entry := by
  obtain ⟨key, value, readonly⟩ := entry
  cases value <;> cases readonly <;> rfl

theorem decodeVec_strings (keys : List String) :
    Json.decodeVec Json.asStr (.array (keys.map .string)) = some keys :=
  @Json.decodeVec_map String Json.asStr .string (fun _ => rfl) keys

theorem GetConfigurationRequest.fromJson_toJson (request : GetConfigurationRequest) :
    fromJson request.toJson = some request := by
  have key : Json.optionalField (Json.present [("key", request.key.map fun keys => .array (keys.map .string))]) "key"
      (Json.decodeVec Json.asStr) = some request.key :=
    Json.optionalField_present (by simp) rfl (by simp) decodeVec_strings
  simp only [fromJson, toJson, Json.structFields, Option.bind_eq_bind, Option.bind_some, key, Option.pure_def]

theorem GetConfigurationResponse.fromJson_toJson (response : GetConfigurationResponse) :
    fromJson response.toJson = some response := by
  obtain ⟨entries, unknown⟩ := response
  have readEntries : Json.optionalField (Json.present
      [("configurationKey", entries.map fun entries => .array (entries.map KeyValue.toJson)),
       ("unknownKey", unknown.map fun keys => .array (keys.map .string))]) "configurationKey"
      (Json.decodeVec KeyValue.fromJson) = some entries :=
    Json.optionalField_present (by simp) rfl (by simp) (Json.decodeVec_map KeyValue.fromJson_toJson)
  have readUnknown : Json.optionalField (Json.present
      [("configurationKey", entries.map fun entries => .array (entries.map KeyValue.toJson)),
       ("unknownKey", unknown.map fun keys => .array (keys.map .string))]) "unknownKey"
      (Json.decodeVec Json.asStr) = some unknown :=
    Json.optionalField_present (by simp) rfl (by simp) decodeVec_strings
  simp only [fromJson, toJson, Json.structFields, Option.bind_eq_bind, Option.bind_some, readEntries, readUnknown,
    Option.pure_def]

/-! ## Actions -/

/-- `explain` gives the text of the error for what cannot be read. -/
def changeConfiguration (explain : Json → String) : Router.Typed :=
  typed "ChangeConfiguration" ChangeConfigurationRequest.fromJson explain fun response =>
    .ok (ChangeConfigurationResponse.toJson response)

def getConfiguration (explain : Json → String) : Router.Typed :=
  typed "GetConfiguration" GetConfigurationRequest.fromJson explain fun response =>
    .ok (GetConfigurationResponse.toJson response)

end Ocpp.V16j
