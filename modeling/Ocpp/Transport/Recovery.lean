import Ocpp.Transport.Frame

/-!
# Recovery of CALLERROR frames

`recover_inbound_call_error` of `message.rs`: an object under `"0"` named `CALLERROR` that the strict decode refuses
is read field by field, so that the call it answers is still rejected. It agrees with the strict decode on the frames
whose error code is a string; the derived decoder also takes a code spelled as an object with `null` under its name.
-/

namespace Ocpp

def OcppError.ofCallErrorMessage (message : CallErrorMessage) : OcppError :=
  .callError message.errorCode message.errorDescription message.errorDetails

end Ocpp

namespace Ocpp.Transport
open Library

def recoverCallError (value : Json) : Option (String × OcppError) :=
  if (value.get "0").bind Json.asStr ≠ some "CALLERROR" then none
  else do
    let uniqueId ← (value.get "1").bind Json.asStr
    let errorCode ← (value.get "2").bind Json.asStr
    let errorDescription := ((value.get "3").bind Json.asStr).getD ""
    let errorDetails := (value.get "4").getD (.object [])
    match (RawMessage.callError 4 uniqueId errorCode errorDescription errorDetails).intoMessage with
    | .ok (.callError frame) => some (uniqueId, .ofCallErrorMessage frame)
    | .ok _ => none
    | .error e => some (uniqueId, e)

def recoverInboundCallError (text : JsonText) (frame : String) : Option (String × OcppError) :=
  (text.parse frame).toOption.bind recoverCallError

/-- The value is a CALLERROR object with a string for its id and its code. -/
def Correlates (value : Json) (uniqueId errorCode : String) : Prop :=
  value.get "0" = some (.string "CALLERROR") ∧ value.get "1" = some (.string uniqueId) ∧
    value.get "2" = some (.string errorCode)

/-- The error for a code: the one of a known code with the description and details of the frame, as far as it has
them. -/
def recoveredError (value : Json) (errorCode : String) : OcppError :=
  match CallErrorCode.ofVariant errorCode with
  | some code => .callError code (((value.get "3").bind Json.asStr).getD "") ((value.get "4").getD (.object []))
  | none => .protocolViolation ("Unknown error code: " ++ errorCode)

section Recover

variable {value : Json}

theorem get_string {key s : String} :
    (value.get key).bind Json.asStr = some s ↔ value.get key = some (.string s) := by
  simp [Option.bind_eq_some_iff, Json.asStr_eq_some]

theorem errorCodeOfStr_eq (errorCode : String) :
    RawMessage.errorCodeOfStr errorCode = CallErrorCode.ofVariant errorCode := rfl

theorem recoverCallError_eq {uniqueId errorCode : String} (correlates : Correlates value uniqueId errorCode) :
    recoverCallError value = some (uniqueId, recoveredError value errorCode) := by
  obtain ⟨type, id, code⟩ := correlates
  simp only [recoverCallError, get_string.mpr type, ne_eq, not_true_eq_false, if_false,
    get_string.mpr id, get_string.mpr code, Option.bind_eq_bind, Option.bind_some, recoveredError,
    RawMessage.intoMessage, errorCodeOfStr_eq]
  cases CallErrorCode.ofVariant errorCode <;> rfl

theorem correlates_of_recovered {result : String × OcppError} (recovered : recoverCallError value = some result) :
    ∃ uniqueId errorCode, Correlates value uniqueId errorCode := by
  unfold recoverCallError at recovered
  split_ifs at recovered with type
  rw [not_not, get_string] at type
  obtain ⟨uniqueId, id, recovered⟩ := Option.bind_eq_some_iff.mp recovered
  obtain ⟨errorCode, code, -⟩ := Option.bind_eq_some_iff.mp recovered
  exact ⟨uniqueId, errorCode, type, get_string.mp id, get_string.mp code⟩

theorem strict_callError {message : CallErrorMessage} (strict : Message.fromJson value = some (.callError message)) :
    value.get "0" = some (.string "CALLERROR") ∧ value.get "1" = some (.string message.uniqueId) ∧
      (value.get "2").bind (Json.decodeVariant CallErrorCode.ofVariant) = some message.errorCode ∧
      value.get "3" = some (.string message.errorDescription) ∧ value.get "4" = some message.errorDetails := by
  unfold Message.fromJson at strict
  split at strict
  case h_1 | h_2 => simp at strict
  case h_4 => simp at strict
  case h_3 type =>
    rw [get_string] at type
    obtain ⟨decoded, strict, same⟩ := Option.map_eq_some_iff.mp strict
    cases same
    cases value with
    | object fields =>
        simp only [CallErrorMessage.fromJson, Json.structFields, Json.requiredField, Option.pure_def,
          Option.bind_eq_bind, Option.bind_some] at strict
        obtain ⟨messageType, -, strict⟩ := Option.bind_eq_some_iff.mp strict
        obtain ⟨uniqueId, id, strict⟩ := Option.bind_eq_some_iff.mp strict
        obtain ⟨errorCode, code, strict⟩ := Option.bind_eq_some_iff.mp strict
        obtain ⟨errorDescription, description, strict⟩ := Option.bind_eq_some_iff.mp strict
        obtain ⟨errorDetails, details, strict⟩ := Option.bind_eq_some_iff.mp strict
        cases strict
        rw [Option.bind_fun_some] at details
        exact ⟨type, get_string.mp id, code, get_string.mp description, details⟩
    | null | bool | number | string | array => cases type

theorem recoverCallError_strict {message : CallErrorMessage} {errorCode : String}
    (strict : Message.fromJson value = some (.callError message)) (code : value.get "2" = some (.string errorCode)) :
    recoverCallError value = some (message.uniqueId, .ofCallErrorMessage message) := by
  obtain ⟨type, id, known, description, details⟩ := strict_callError strict
  rw [recoverCallError_eq ⟨type, id, code⟩]
  rw [code] at known
  have known : CallErrorCode.ofVariant errorCode = some message.errorCode := known
  simp [recoveredError, known, description, details, Json.asStr, OcppError.ofCallErrorMessage]

end Recover

/-- A frame that the strict decode reads as a CALLERROR is recovered as the error it stands for, if its code is a
string; every CALLERROR object with a string for its id and its code is recovered; and nothing else is. -/
theorem recoverInboundCallError_refines (text : JsonText) (frame : String) :
    (∀ message value errorCode, decodeFrame text frame = some (.callError message) →
      text.parse frame = .ok value → value.get "2" = some (.string errorCode) →
        recoverInboundCallError text frame = some (message.uniqueId, .ofCallErrorMessage message)) ∧
    (∀ value uniqueId errorCode, text.parse frame = .ok value → Correlates value uniqueId errorCode →
      recoverInboundCallError text frame = some (uniqueId, recoveredError value errorCode)) ∧
    ((¬∃ value uniqueId errorCode, text.parse frame = .ok value ∧ Correlates value uniqueId errorCode) →
      recoverInboundCallError text frame = none) := by
  refine ⟨?_, ?_, ?_⟩
  · intro message value errorCode strict parsed code
    simp only [decodeFrame, recoverInboundCallError, parsed, Except.toOption, Option.bind_some] at strict ⊢
    exact recoverCallError_strict strict code
  · intro value uniqueId errorCode parsed correlates
    simp only [recoverInboundCallError, parsed, Except.toOption, Option.bind_some]
    exact recoverCallError_eq correlates
  · intro uncorrelated
    rw [recoverInboundCallError, Option.bind_eq_none_iff]
    intro value parsed
    by_contra recovered
    obtain ⟨result, recovered⟩ := Option.ne_none_iff_exists'.mp recovered
    obtain ⟨uniqueId, errorCode, correlates⟩ := correlates_of_recovered recovered
    refine uncorrelated ⟨value, uniqueId, errorCode, ?_, correlates⟩
    cases read : text.parse frame with
    | error message => simp [read, Except.toOption] at parsed
    | ok other =>
        simp only [read, Except.toOption, Option.some.injEq] at parsed
        rw [parsed]

def genericErrorFrame : String :=
  "\x7b\"0\":\"CALLERROR\",\"1\":\"42\",\"2\":\x7b\"GenericError\":null\x7d,\"3\":\"\",\"4\":\x7b\x7d\x7d"

/-- `serde_json` on `genericErrorFrame`. -/
def genericErrorText : JsonText where
  print _ := genericErrorFrame
  parse frame :=
    if frame = genericErrorFrame then
      .ok (.object [("0", .string "CALLERROR"), ("1", .string "42"), ("2", .object [("GenericError", .null)]),
        ("3", .string ""), ("4", .object [])])
    else .error "expected value at line 1 column 1"

/-- The derived decoder takes a code in the form of a variant with `null`, the recovery does not. -/
theorem genericErrorFrame_not_recovered :
    ∃ message, decodeFrame genericErrorText genericErrorFrame = some (.callError message) ∧
      recoverInboundCallError genericErrorText genericErrorFrame ≠
        some (message.uniqueId, .ofCallErrorMessage message) := by
  refine ⟨⟨.callError, "42", .genericError, "", .object []⟩, rfl, ?_⟩
  have unrecovered : recoverInboundCallError genericErrorText genericErrorFrame = none := rfl
  rw [unrecovered]
  simp

end Ocpp.Transport
