import Ocpp.Types.Message

/-!
# The structural check of a frame

`format::validate_json_structure` of `serialization.rs`, which is to accept only arrays that the decoder of the
array form takes. It narrows the message type to eight bits before it compares it; the decoder refuses a number
that does not fit.
-/

namespace Ocpp.Format
open Library

def violation (message : String) : Except OcppError Unit :=
  .error (.protocolViolation message)

def validateCallStructure : List Json → Except OcppError Unit
  | [_, _, action, payload] =>
      if ¬action.isString then violation "Third element must be action string"
      else if ¬payload.isObject then violation "Fourth element must be payload object"
      else .ok ()
  | _ => violation "Call message must have exactly 4 elements"

def validateCallResultStructure : List Json → Except OcppError Unit
  | [_, _, payload] =>
      if ¬payload.isObject then violation "Third element must be payload object"
      else .ok ()
  | _ => violation "CallResult message must have exactly 3 elements"

def validateCallErrorStructure : List Json → Except OcppError Unit
  | [_, _, errorCode, errorDescription, errorDetails] =>
      if ¬errorCode.isString then violation "Third element must be error code string"
      else if ¬errorDescription.isString then violation "Fourth element must be error description string"
      else if ¬errorDetails.isObject then violation "Fifth element must be error details object"
      else .ok ()
  | _ => violation "CallError message must have exactly 5 elements"

/-- The cast of the first element to a `u8`. -/
def msgType (first : Json) : Nat :=
  first.asU64.getD 0 % 256

def validateJsonStructure : Json → Except OcppError Unit
  | .array (first :: second :: third :: rest) =>
      if ¬first.isNumber then violation "First element must be message type number"
      else if msgType first ∉ [2, 3, 4] then violation ("Invalid message type: " ++ toString (msgType first))
      else if ¬second.isString then violation "Second element must be unique ID string"
      else
        match msgType first with
        | 2 => validateCallStructure (first :: second :: third :: rest)
        | 3 => validateCallResultStructure (first :: second :: third :: rest)
        | _ => validateCallErrorStructure (first :: second :: third :: rest)
  | .array _ => violation "OCPP message array must have at least 3 elements"
  | _ => violation "OCPP message must be a JSON array"

/-! ## What is accepted -/

/-- An array of the shape that its first element, taken modulo 256, asks for. -/
inductive Shaped (n : Nat) : Json → Prop
  | call (type : n % 256 = 2) (uniqueId action : String) (payload : List (String × Json)) :
      Shaped n (.array [.number (.posInt n), .string uniqueId, .string action, .object payload])
  | callResult (type : n % 256 = 3) (uniqueId : String) (payload : List (String × Json)) :
      Shaped n (.array [.number (.posInt n), .string uniqueId, .object payload])
  | callError (type : n % 256 = 4) (uniqueId errorCode errorDescription : String)
      (errorDetails : List (String × Json)) :
      Shaped n (.array [.number (.posInt n), .string uniqueId, .string errorCode, .string errorDescription,
        .object errorDetails])

theorem check_ok {condition : Prop} [Decidable condition] {message : String} {next : Except OcppError Unit} :
    (if ¬condition then violation message else next) = .ok () ↔ condition ∧ next = .ok () := by
  by_cases met : condition <;> simp [met, violation]

section Shapes

variable {first second third : Json} {rest : List Json}

theorem validateCallStructure_ok (valid : validateCallStructure (first :: second :: third :: rest) = .ok ()) :
    ∃ action payload, third = .string action ∧ rest = [.object payload] := by
  unfold validateCallStructure at valid
  split at valid
  case h_2 => cases valid
  case h_1 shape =>
    cases shape
    simp only [check_ok] at valid
    obtain ⟨text, object, -⟩ := valid
    obtain ⟨action, rfl⟩ := Json.isString_iff.mp text
    obtain ⟨payload, rfl⟩ := Json.isObject_iff.mp object
    exact ⟨action, payload, rfl, rfl⟩

theorem validateCallResultStructure_ok
    (valid : validateCallResultStructure (first :: second :: third :: rest) = .ok ()) :
    ∃ payload, third = .object payload ∧ rest = [] := by
  unfold validateCallResultStructure at valid
  split at valid
  case h_2 => cases valid
  case h_1 shape =>
    cases shape
    simp only [check_ok] at valid
    obtain ⟨object, -⟩ := valid
    obtain ⟨payload, rfl⟩ := Json.isObject_iff.mp object
    exact ⟨payload, rfl, rfl⟩

theorem validateCallErrorStructure_ok
    (valid : validateCallErrorStructure (first :: second :: third :: rest) = .ok ()) :
    ∃ errorCode errorDescription errorDetails, third = .string errorCode ∧
      rest = [.string errorDescription, .object errorDetails] := by
  unfold validateCallErrorStructure at valid
  split at valid
  case h_2 => cases valid
  case h_1 shape =>
    cases shape
    simp only [check_ok] at valid
    obtain ⟨code, description, object, -⟩ := valid
    obtain ⟨errorCode, rfl⟩ := Json.isString_iff.mp code
    obtain ⟨errorDescription, rfl⟩ := Json.isString_iff.mp description
    obtain ⟨errorDetails, rfl⟩ := Json.isObject_iff.mp object
    exact ⟨errorCode, errorDescription, errorDetails, rfl, rfl⟩

end Shapes

/-- A number that is not a natural number counts as type 0. -/
theorem msgType_pos {first : Json} (type : msgType first ∈ [2, 3, 4]) :
    ∃ n, first = .number (.posInt n) ∧ msgType first = n % 256 := by
  unfold msgType Json.asU64 at *
  split
  · exact ⟨_, rfl, rfl⟩
  · simp at type

theorem shaped_of_valid {value : Json} (valid : validateJsonStructure value = .ok ()) :
    ∃ n, Shaped n value := by
  unfold validateJsonStructure at valid
  split at valid
  case h_2 | h_3 => cases valid
  case h_1 first second third rest =>
    simp only [check_ok] at valid
    obtain ⟨-, type, text, valid⟩ := valid
    obtain ⟨uniqueId, rfl⟩ := Json.isString_iff.mp text
    obtain ⟨n, rfl, narrowed⟩ := msgType_pos type
    refine ⟨n, ?_⟩
    rw [narrowed] at valid type
    split at valid
    case h_1 call =>
      obtain ⟨action, payload, rfl, rfl⟩ := validateCallStructure_ok valid
      exact .call call uniqueId action payload
    case h_2 callResult =>
      obtain ⟨payload, rfl, rfl⟩ := validateCallResultStructure_ok valid
      exact .callResult callResult uniqueId payload
    case h_3 notCall notCallResult =>
      have callError : n % 256 = 4 := by
        simp only [List.mem_cons, List.not_mem_nil, or_false] at type
        exact (type.resolve_left notCall).resolve_left notCallResult
      obtain ⟨errorCode, errorDescription, errorDetails, rfl, rfl⟩ := validateCallErrorStructure_ok valid
      exact .callError callError uniqueId errorCode errorDescription errorDetails

theorem valid_of_shaped {n : Nat} {value : Json} (shaped : Shaped n value) :
    validateJsonStructure value = .ok () := by
  cases shaped with
  | call type uniqueId action payload =>
      simp [validateJsonStructure, validateCallStructure, msgType, Json.asU64, Json.isNumber, Json.isString,
        Json.isObject, type]
  | callResult type uniqueId payload =>
      simp [validateJsonStructure, validateCallResultStructure, msgType, Json.asU64, Json.isNumber, Json.isString,
        Json.isObject, type]
  | callError type uniqueId errorCode errorDescription errorDetails =>
      simp [validateJsonStructure, validateCallErrorStructure, msgType, Json.asU64, Json.isNumber, Json.isString,
        Json.isObject, type]

/-! ## What is decoded -/

/-- The first element is a message type, and the decoder takes the frame without an objection to its type. -/
def Decoded (value : Json) : Prop :=
  (∃ n rest, value = .array (.number (.posInt n) :: rest) ∧ n ∈ [2, 3, 4]) ∧
    ∃ raw, RawMessage.fromJson value = some raw ∧ ∀ type, raw.intoMessage ≠ .error (.invalidMessageType type)

theorem shaped_head {n m : Nat} {items rest : List Json} (shaped : Shaped n (.array items))
    (head : items = .number (.posInt m) :: rest) : m = n := by
  cases shaped <;> cases head <;> rfl

theorem decoded_of_shaped {n : Nat} {value : Json} (shaped : Shaped n value) (fits : n < 256) : Decoded value := by
  cases shaped with
  | call type uniqueId action payload =>
      obtain rfl : n = 2 := by omega
      refine ⟨⟨2, _, rfl, by simp⟩, .call 2 uniqueId action (.object payload), rfl, ?_⟩
      intro type invalid
      cases invalid
  | callResult type uniqueId payload =>
      obtain rfl : n = 3 := by omega
      refine ⟨⟨3, _, rfl, by simp⟩, .callResult 3 uniqueId (.object payload), rfl, ?_⟩
      intro type invalid
      cases invalid
  | callError type uniqueId errorCode errorDescription errorDetails =>
      obtain rfl : n = 4 := by omega
      refine ⟨⟨4, _, rfl, by simp⟩,
        .callError 4 uniqueId errorCode errorDescription (.object errorDetails), rfl, ?_⟩
      intro type invalid
      simp only [RawMessage.intoMessage] at invalid
      rw [if_neg (by simp)] at invalid
      split at invalid <;> cases invalid

/-- What the check accepts is decoded exactly when its first element is below 256. -/
theorem validated_decoded_iff (value : Json) :
    (validateJsonStructure value = .ok () → Decoded value) ↔ ∀ n, Shaped n value → n < 256 := by
  constructor
  · intro decoded n shaped
    obtain ⟨⟨m, rest, rfl, type⟩, -⟩ := decoded (valid_of_shaped shaped)
    obtain rfl := shaped_head shaped rfl
    simp only [List.mem_cons, List.not_mem_nil, or_false] at type
    omega
  · intro fits valid
    obtain ⟨n, shaped⟩ := shaped_of_valid valid
    exact decoded_of_shaped shaped (fits n shaped)

theorem validated_type_258 :
    validateJsonStructure (.array [.number (.posInt 258), .string "1", .string "Heartbeat", .object []]) = .ok () ∧
      ¬Decoded (.array [.number (.posInt 258), .string "1", .string "Heartbeat", .object []]) := by
  refine ⟨rfl, ?_⟩
  rintro ⟨-, raw, decoded, -⟩
  cases decoded

end Ocpp.Format
