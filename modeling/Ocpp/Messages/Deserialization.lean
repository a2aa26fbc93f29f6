import Ocpp.Messages.Dispatcher
import Ocpp.Messages.Schemas

/-!
# Deserialisation

What the schemas of `StopTransaction`, `StatusNotification` and `BootNotification` accept, and what the types of these
requests read.
-/

namespace Ocpp.V16j
open Library Schema

section Fields

variable (timestamps : Timestamps) (fields : List (String × Json))

theorem SampledValue.fromJson_isSome : (fromJson (.object fields)).isSome ↔
    (Json.requiredField fields "value" Json.asStr).isSome ∧
    (Json.optionalField fields "context" (Json.decodeVariant ReadingContext.ofVariant)).isSome ∧
    (Json.optionalField fields "format" (Json.decodeVariant ValueFormat.ofVariant)).isSome ∧
    (Json.optionalField fields "measurand" (Json.decodeVariant Measurand.ofVariant)).isSome ∧
    (Json.optionalField fields "phase" (Json.decodeVariant Phase.ofVariant)).isSome ∧
    (Json.optionalField fields "location" (Json.decodeVariant Location.ofVariant)).isSome ∧
    (Json.optionalField fields "unit" (Json.decodeVariant UnitOfMeasure.ofVariant)).isSome := by
  simp only [fromJson, Json.structFields, Option.bind_eq_bind, Option.bind_some, Option.isSome_bind, Option.any_eq_true,
    Option.pure_def, Option.isSome_some, and_true, exists_and_right, ← Option.isSome_iff_exists]

theorem MeterValue.fromJson_isSome : (fromJson timestamps (.object fields)).isSome ↔
    (Json.requiredField fields "timestamp" timestamps.decode).isSome ∧
    (Json.requiredField fields "sampledValue" (Json.decodeVec SampledValue.fromJson)).isSome := by
  simp only [fromJson, Json.structFields, Option.bind_eq_bind, Option.bind_some, Option.isSome_bind, Option.any_eq_true,
    Option.pure_def, Option.isSome_some, and_true, exists_and_right, ← Option.isSome_iff_exists]

theorem BootNotificationRequest.fromJson_isSome : (fromJson (.object fields)).isSome ↔
    (Json.requiredField fields "chargePointVendor" Json.asStr).isSome ∧
    (Json.requiredField fields "chargePointModel" Json.asStr).isSome ∧
    (Json.optionalField fields "chargePointSerialNumber" Json.asStr).isSome ∧
    (Json.optionalField fields "chargeBoxSerialNumber" Json.asStr).isSome ∧
    (Json.optionalField fields "firmwareVersion" Json.asStr).isSome ∧
    (Json.optionalField fields "iccid" Json.asStr).isSome ∧ (Json.optionalField fields "imsi" Json.asStr).isSome ∧
    (Json.optionalField fields "meterType" Json.asStr).isSome ∧
    (Json.optionalField fields "meterSerialNumber" Json.asStr).isSome := by
  simp only [fromJson, Json.structFields, Option.bind_eq_bind, Option.bind_some, Option.isSome_bind, Option.any_eq_true,
    Option.pure_def, Option.isSome_some, and_true, exists_and_right, ← Option.isSome_iff_exists]

theorem StatusNotificationRequest.fromJson_isSome : (fromJson timestamps (.object fields)).isSome ↔
    (Json.requiredField fields "connectorId" Json.decodeU32).isSome ∧
    (Json.requiredField fields "errorCode" (Json.decodeVariant ChargePointErrorCode.ofVariant)).isSome ∧
    (Json.optionalField fields "info" Json.asStr).isSome ∧
    (Json.requiredField fields "status" (Json.decodeVariant ChargePointStatus.ofVariant)).isSome ∧
    (Json.optionalField fields "timestamp" timestamps.decode).isSome ∧
    (Json.optionalField fields "vendorErrorCode" Json.asStr).isSome ∧
    (Json.optionalField fields "vendorId" Json.asStr).isSome := by
  simp only [fromJson, Json.structFields, Option.bind_eq_bind, Option.bind_some, Option.isSome_bind, Option.any_eq_true,
    Option.pure_def, Option.isSome_some, and_true, exists_and_right, ← Option.isSome_iff_exists]

theorem StopTransactionRequest.fromJson_isSome : (fromJson timestamps (.object fields)).isSome ↔
    (Json.optionalField fields "idTag" Json.asStr).isSome ∧
    (Json.requiredField fields "meterStop" Json.decodeI32).isSome ∧
    (Json.requiredField fields "timestamp" timestamps.decode).isSome ∧
    (Json.requiredField fields "transactionId" Json.decodeI32).isSome ∧
    (Json.optionalField fields "reason" (Json.decodeVariant Reason.ofVariant)).isSome ∧
    (Json.optionalField fields "transactionData" (Json.decodeVec (MeterValue.fromJson timestamps))).isSome := by
  simp only [fromJson, Json.structFields, Option.bind_eq_bind, Option.bind_some, Option.isSome_bind, Option.any_eq_true,
    Option.pure_def, Option.isSome_some, and_true, exists_and_right, ← Option.isSome_iff_exists]

end Fields

section Reads

variable {isDateTime : String → Bool}

theorem ChargePointErrorCode.reads : Reads isDateTime schema (Json.decodeVariant ofVariant) fun _ => True :=
  reads_enum_all (by decide)

theorem ChargePointStatus.reads : Reads isDateTime schema (Json.decodeVariant ofVariant) fun _ => True :=
  reads_enum_all (by decide)

theorem Reason.reads : Reads isDateTime schema (Json.decodeVariant ofVariant) fun _ => True :=
  reads_enum_all (by decide)

theorem ReadingContext.reads : Reads isDateTime schema (Json.decodeVariant ofVariant) fun _ => True :=
  reads_enum_all (by decide)

theorem ValueFormat.reads : Reads isDateTime schema (Json.decodeVariant ofVariant) fun _ => True :=
  reads_enum_all (by decide)

theorem Measurand.reads : Reads isDateTime schema (Json.decodeVariant ofVariant) fun _ => True :=
  reads_enum_all (by decide)

theorem Phase.reads : Reads isDateTime schema (Json.decodeVariant ofVariant) fun _ => True :=
  reads_enum_all (by decide)

theorem Location.reads : Reads isDateTime schema (Json.decodeVariant ofVariant) fun _ => True :=
  reads_enum_all (by decide)

/-- The schema has a unit in two spellings, the type in one. -/
theorem UnitOfMeasure.reads : Reads isDateTime schema (Json.decodeVariant ofVariant) (· ≠ .string "Celcius") :=
  reads_enum_except (by decide) (by decide)

theorem SampledValue.reads : Reads isDateTime schema fromJson fun value =>
    value.get "unit" ≠ some (.string "Celcius") := by
  intro value accepted
  obtain ⟨fields, rfl⟩ := object_of_accepts accepted
  have text := (reads_string none).required_all "value" accepted (by simp) (by simp)
  have context := ReadingContext.reads.optional_all "context" accepted (by simp)
  have format := ValueFormat.reads.optional_all "format" accepted (by simp)
  have measurand := Measurand.reads.optional_all "measurand" accepted (by simp)
  have phase := Phase.reads.optional_all "phase" accepted (by simp)
  have location := Location.reads.optional_all "location" accepted (by simp)
  have unit := UnitOfMeasure.reads.optional "unit" accepted (by simp)
  simp only [fromJson_isSome, text, context, format, measurand, phase, location, unit, true_and, Json.get]
  exact ⟨fun others found => others _ found rfl, fun other value found same => other (same ▸ found)⟩

variable {timestamps : Timestamps}

theorem Timestamps.reads (stamps : ∀ text, isDateTime text → (timestamps.parse text).isSome) :
    Reads isDateTime .dateTime timestamps.decode fun _ => True :=
  reads_dateTime stamps

def MeterValue.units (value : Json) : List Json :=
  ((value.get "sampledValue").elim [] Json.elements).filterMap (·.get "unit")

theorem MeterValue.reads (stamps : ∀ text, isDateTime text → (timestamps.parse text).isSome) :
    Reads isDateTime schema (fromJson timestamps) fun value => .string "Celcius" ∉ units value := by
  intro value accepted
  obtain ⟨fields, rfl⟩ := object_of_accepts accepted
  have timestamp := (Timestamps.reads stamps).required_all "timestamp" accepted (by simp) (by simp)
  have sampled := SampledValue.reads.array.required "sampledValue" accepted (by simp) (by simp)
  simp only [fromJson_isSome, timestamp, sampled, true_and, units, Json.get]
  cases List.lookup "sampledValue" fields with
  | none => simp
  | some samples =>
      simp only [Option.some.injEq, forall_eq', Option.elim_some, List.mem_filterMap, not_exists, not_and, ne_eq]

end Reads

/-! ## Requests -/

def StopTransactionRequest.units (payload : Json) : List Json :=
  ((payload.get "transactionData").elim [] Json.elements).flatMap MeterValue.units

def Within (low high : Int) (value : Json) : Prop :=
  ∀ n, value.asInt = some n → low ≤ n ∧ n ≤ high

structure StopTransactionRequest.Fits (payload : Json) : Prop where
  meterStop : ∀ value, payload.get "meterStop" = some value → Within (-2147483648) 2147483647 value
  transactionId : ∀ value, payload.get "transactionId" = some value → Within (-2147483648) 2147483647 value
  units : .string "Celcius" ∉ units payload

structure StatusNotificationRequest.Fits (payload : Json) : Prop where
  connectorId : ∀ value, payload.get "connectorId" = some value → Within 0 4294967295 value

section Requests

variable {isDateTime : String → Bool} {timestamps : Timestamps}

theorem BootNotificationRequest.reads : Reads isDateTime schema fromJson fun _ => True := by
  intro value accepted
  obtain ⟨fields, rfl⟩ := object_of_accepts accepted
  rw [fromJson_isSome]
  refine iff_of_true ⟨?_, ?_, ?_, ?_, ?_, ?_, ?_, ?_, ?_⟩ trivial
  · exact required_string _ accepted (by simp) (by simp)
  · exact required_string _ accepted (by simp) (by simp)
  all_goals exact optional_string _ accepted (by simp)

theorem StatusNotificationRequest.reads (stamps : ∀ text, isDateTime text → (timestamps.parse text).isSome) :
    Reads isDateTime schema (fromJson timestamps) Fits := by
  intro value accepted
  obtain ⟨fields, rfl⟩ := object_of_accepts accepted
  have connectorId := (reads_integer 0 4294967295).required "connectorId" accepted (by simp) (by simp)
  have errorCode := ChargePointErrorCode.reads.required_all "errorCode" accepted (by simp) (by simp)
  have info := optional_string "info" accepted (by simp)
  have status := ChargePointStatus.reads.required_all "status" accepted (by simp) (by simp)
  have timestamp := (Timestamps.reads stamps).optional_all "timestamp" accepted (by simp)
  have vendorErrorCode := optional_string "vendorErrorCode" accepted (by simp)
  have vendorId := optional_string "vendorId" accepted (by simp)
  simp only [fromJson_isSome, Json.decodeU32, connectorId, errorCode, info, status, timestamp, vendorErrorCode,
    vendorId, and_true]
  exact ⟨fun range => ⟨range⟩, Fits.connectorId⟩

theorem StopTransactionRequest.reads (stamps : ∀ text, isDateTime text → (timestamps.parse text).isSome) :
    Reads isDateTime schema (fromJson timestamps) Fits := by
  intro value accepted
  obtain ⟨fields, rfl⟩ := object_of_accepts accepted
  have idTag := optional_string "idTag" accepted (by simp)
  have integer : Reads isDateTime .integer Json.decodeI32 (Within (-2147483648) 2147483647) := reads_integer _ _
  have meterStop := integer.required "meterStop" accepted (by simp) (by simp)
  have timestamp := (Timestamps.reads stamps).required_all "timestamp" accepted (by simp) (by simp)
  have transactionId := integer.required "transactionId" accepted (by simp) (by simp)
  have reason := Reason.reads.optional_all "reason" accepted (by simp)
  have data := (MeterValue.reads stamps).array.optional "transactionData" accepted (by simp)
  have spelled : .string "Celcius" ∉ units (.object fields) ↔ ∀ value, fields.lookup "transactionData" = some value →
      ∀ item ∈ value.elements, .string "Celcius" ∉ MeterValue.units item := by
    rw [units, Json.get]
    cases fields.lookup "transactionData" <;> simp
  simp only [fromJson_isSome, idTag, meterStop, timestamp, transactionId, reason, data, ← spelled,
    true_and]
  exact ⟨fun ⟨stop, id, other⟩ => ⟨stop, id, other⟩, fun ⟨stop, id, other⟩ => ⟨stop, id, other⟩⟩

end Requests

/-! ## Routes -/

section Routes

variable {Request Response : Type}

/-- The action of a request that `decode` reads. `explain` gives the text of the error. -/
def typed (actionName : String) (decode : Json → Option Request) (explain : Json → String)
    (toValue : Response → Except String Json) : Router.Typed where
  actionName := actionName
  Request := Request
  Response := Response
  fromValue value := (decode value).elim (.error (explain value)) .ok
  toValue := toValue

/-- The payload is read, and a CALL of it that passes its validation does not fail before its handler. -/
structure Deserialises (actionName : String) (decode : Json → Option Request) (payload : Json) : Prop where
  read : (decode payload).isSome
  handled : ∀ {η Response : Type} (router : Router η) (state : η × List SpawnedHook) (uniqueId : String)
    (explain : Json → String) (toValue : Response → Except String Json),
    (∀ validator ∈ router.validator, validator.validateCall actionName payload = .ok ()) →
    ¬router.FailsBeforeHandler (typed actionName decode explain toValue) state ⟨.call, uniqueId, actionName, payload⟩

theorem deserialises_iff {actionName : String} {decode : Json → Option Request} {payload : Json} :
    Deserialises actionName decode payload ↔ (decode payload).isSome := by
  constructor
  · exact Deserialises.read
  · intro read
    refine ⟨read, ?_⟩
    intro η Response router state uniqueId explain toValue passes fails
    obtain ⟨message, unread⟩ := (Router.failsBeforeHandler_iff rfl passes).mp fails
    obtain ⟨request, found⟩ := Option.isSome_iff_exists.mp read
    simp only [typed, found, Option.elim_some] at unread
    cases unread

/-- What the schemas accept is read but for integers the types have no room for and the unit in its other spelling. -/
theorem accepted_deserialises_iff {isDateTime : String → Bool} {timestamps : Timestamps}
    (stamps : ∀ text, isDateTime text → (timestamps.parse text).isSome) :
    (∀ payload, StopTransactionRequest.schema.accepts isDateTime payload →
      (Deserialises "StopTransaction" (StopTransactionRequest.fromJson timestamps) payload ↔
        StopTransactionRequest.Fits payload)) ∧
    (∀ payload, StatusNotificationRequest.schema.accepts isDateTime payload →
      (Deserialises "StatusNotification" (StatusNotificationRequest.fromJson timestamps) payload ↔
        StatusNotificationRequest.Fits payload)) ∧
    ∀ payload, BootNotificationRequest.schema.accepts isDateTime payload →
      Deserialises "BootNotification" BootNotificationRequest.fromJson payload := by
  refine ⟨?_, ?_, ?_⟩
  · intro payload accepted
    rw [deserialises_iff, StopTransactionRequest.reads stamps payload accepted]
  · intro payload accepted
    rw [deserialises_iff, StatusNotificationRequest.reads stamps payload accepted]
  · intro payload accepted
    rw [deserialises_iff, BootNotificationRequest.reads payload accepted]
    trivial

end Routes

/-- Reads the one timestamp of the payloads below. -/
def epoch : Timestamps where
  parse text := if text = "1970-01-01T00:00:00Z" then some ⟨0⟩ else none

def isEpoch (text : String) : Bool :=
  text = "1970-01-01T00:00:00Z"

def stopWith (unit : String) : Json := .object
  [("transactionId", .number (.posInt 1)), ("timestamp", .string "1970-01-01T00:00:00Z"),
   ("meterStop", .number (.posInt 0)),
   ("transactionData", .array [.object
     [("timestamp", .string "1970-01-01T00:00:00Z"),
      ("sampledValue", .array [.object [("value", .string "21"), ("unit", .string unit)]])]])]

theorem isEpoch_read {text : String} (stamp : isEpoch text) : (epoch.parse text).isSome := by
  obtain rfl := of_decide_eq_true stamp
  rfl

theorem celsius_deserialises :
    Deserialises "StopTransaction" (StopTransactionRequest.fromJson epoch) (stopWith "Celsius") := by
  obtain ⟨stop, -⟩ := accepted_deserialises_iff fun _ => isEpoch_read
  apply (stop (stopWith "Celsius") (by decide +kernel)).mpr
  constructor
  · rintro _ ⟨⟩ _ ⟨⟩
    decide
  · rintro _ ⟨⟩ _ ⟨⟩
    decide
  · decide +kernel

/-- The misspelled unit of the schema is accepted and not read. -/
theorem celcius_not_deserialised : ¬∀ payload, StopTransactionRequest.schema.accepts isEpoch payload →
    Deserialises "StopTransaction" (StopTransactionRequest.fromJson epoch) payload := by
  intro always
  have accepted : StopTransactionRequest.schema.accepts isEpoch (stopWith "Celcius") := by decide +kernel
  have unread : (StopTransactionRequest.fromJson epoch (stopWith "Celcius")).isSome = false := by decide +kernel
  have read := (always _ accepted).read
  rw [unread] at read
  cases read

end Ocpp.V16j
