import Ocpp.Types.Error

/-!
# Message frames

`message.rs`: the three message kinds, the object form the transport writes (keys `"0"` to `"4"`, with a
name under `"0"`), and the array form of OCPP-J with a number in front. The array form is read by arity
before its number is checked; `Framed` says which values it accepts.
-/

namespace Ocpp
open Library

inductive MessageType
  | call
  | callResult
  | callError
  deriving DecidableEq, Repr

structure CallMessage where
  messageType : MessageType
  uniqueId : String
  action : String
  payload : Json

structure CallResultMessage where
  messageType : MessageType
  uniqueId : String
  payload : Json

structure CallErrorMessage where
  messageType : MessageType
  uniqueId : String
  errorCode : CallErrorCode
  errorDescription : String
  errorDetails : Json

inductive Message
  | call (message : CallMessage)
  | callResult (message : CallResultMessage)
  | callError (message : CallErrorMessage)

namespace Message

def uniqueId : Message → String
  | call message => message.uniqueId
  | callResult message => message.uniqueId
  | callError message => message.uniqueId

def newCallResult (uniqueId : String) (payload : Json) : Message :=
  .callResult ⟨.callResult, uniqueId, payload⟩

def newCallError (uniqueId : String) (errorCode : CallErrorCode) (errorDescription : String)
    (errorDetails : Option Json) : Message :=
  .callError ⟨.callError, uniqueId, errorCode, errorDescription, errorDetails.getD (.object [])⟩

/-- The type field of a message, which is public, is that of its kind. -/
def Typed : Message → Prop
  | call message => message.messageType = .call
  | callResult message => message.messageType = .callResult
  | callError message => message.messageType = .callError

end Message

/-! ## The object form -/

def MessageType.name : MessageType → String
  | .call => "CALL"
  | .callResult => "CALLRESULT"
  | .callError => "CALLERROR"

def MessageType.ofVariant : String → Option MessageType
  | "CALL" => some .call
  | "CALLRESULT" => some .callResult
  | "CALLERROR" => some .callError
  | _ => none

def CallMessage.toJson (message : CallMessage) : Json :=
  .object [("0", .string message.messageType.name), ("1", .string message.uniqueId),
    ("2", .string message.action), ("3", message.payload)]

def CallMessage.fromJson (value : Json) : Option CallMessage := do
  let fields ← value.structFields ["0", "1", "2", "3"]
  return {
    messageType := ← Json.requiredField fields "0" (Json.decodeVariant MessageType.ofVariant)
    uniqueId := ← Json.requiredField fields "1" Json.asStr
    action := ← Json.requiredField fields "2" Json.asStr
    payload := ← Json.requiredField fields "3" some }

def CallResultMessage.toJson (message : CallResultMessage) : Json :=
  .object [("0", .string message.messageType.name), ("1", .string message.uniqueId),
    ("2", message.payload)]

def CallResultMessage.fromJson (value : Json) : Option CallResultMessage := do
  let fields ← value.structFields ["0", "1", "2"]
  return {
    messageType := ← Json.requiredField fields "0" (Json.decodeVariant MessageType.ofVariant)
    uniqueId := ← Json.requiredField fields "1" Json.asStr
    payload := ← Json.requiredField fields "2" some }

def CallErrorMessage.toJson (message : CallErrorMessage) : Json :=
  .object [("0", .string message.messageType.name), ("1", .string message.uniqueId),
    ("2", .string message.errorCode.asStr), ("3", .string message.errorDescription),
    ("4", message.errorDetails)]

def CallErrorMessage.fromJson (value : Json) : Option CallErrorMessage := do
  let fields ← value.structFields ["0", "1", "2", "3", "4"]
  return {
    messageType := ← Json.requiredField fields "0" (Json.decodeVariant MessageType.ofVariant)
    uniqueId := ← Json.requiredField fields "1" Json.asStr
    errorCode := ← Json.requiredField fields "2" (Json.decodeVariant CallErrorCode.ofVariant)
    errorDescription := ← Json.requiredField fields "3" Json.asStr
    errorDetails := ← Json.requiredField fields "4" some }

def Message.toJson : Message → Json
  | call message => message.toJson
  | callResult message => message.toJson
  | callError message => message.toJson

def Message.fromJson (value : Json) : Option Message :=
  match (value.get "0").bind Json.asStr with
  | some "CALL" => (CallMessage.fromJson value).map .call
  | some "CALLRESULT" => (CallResultMessage.fromJson value).map .callResult
  | some "CALLERROR" => (CallErrorMessage.fromJson value).map .callError
  | _ => none

/-! ## The array form -/

inductive RawMessage
  | call (messageType : Int) (uniqueId action : String) (payload : Json)
  | callResult (messageType : Int) (uniqueId : String) (payload : Json)
  | callError (messageType : Int) (uniqueId errorCode errorDescription : String) (errorDetails : Json)

namespace RawMessage

def ofMessage : Message → RawMessage
  | .call message => call 2 message.uniqueId message.action message.payload
  | .callResult message => callResult 3 message.uniqueId message.payload
  | .callError message =>
      callError 4 message.uniqueId message.errorCode.asStr message.errorDescription
        message.errorDetails

def errorCodeOfStr : String → Option CallErrorCode
  | "NotImplemented" => some .notImplemented
  | "NotSupported" => some .notSupported
  | "InternalError" => some .internalError
  | "ProtocolError" => some .protocolError
  | "SecurityError" => some .securityError
  | "FormationViolation" => some .formationViolation
  | "FormatViolation" => some .formatViolation
  | "PropertyConstraintViolation" => some .propertyConstraintViolation
  | "OccurenceConstraintViolation" => some .occurenceConstraintViolation
  | "OccurrenceConstraintViolation" => some .occurrenceConstraintViolation
  | "TypeConstraintViolation" => some .typeConstraintViolation
  | "GenericError" => some .genericError
  | _ => none

def intoMessage : RawMessage → Except OcppError Message
  | call messageType uniqueId action payload =>
      if messageType ≠ 2 then .error (.invalidMessageType messageType)
      else .ok (.call ⟨.call, uniqueId, action, payload⟩)
  | callResult messageType uniqueId payload =>
      if messageType ≠ 3 then .error (.invalidMessageType messageType)
      else .ok (.callResult ⟨.callResult, uniqueId, payload⟩)
  | callError messageType uniqueId errorCode errorDescription errorDetails =>
      if messageType ≠ 4 then .error (.invalidMessageType messageType)
      else
        match errorCodeOfStr errorCode with
        | none => .error (.protocolViolation ("Unknown error code: " ++ errorCode))
        | some code =>
            .ok (.callError ⟨.callError, uniqueId, code, errorDescription, errorDetails⟩)

def toJson : RawMessage → Json
  | call messageType uniqueId action payload =>
      .array [.number (.posInt messageType.toNat), .string uniqueId, .string action, payload]
  | callResult messageType uniqueId payload =>
      .array [.number (.posInt messageType.toNat), .string uniqueId, payload]
  | callError messageType uniqueId errorCode errorDescription errorDetails =>
      .array [.number (.posInt messageType.toNat), .string uniqueId, .string errorCode,
        .string errorDescription, errorDetails]

def decodeCall : Json → Option RawMessage
  | .array [messageType, uniqueId, action, payload] => do
      return call (← messageType.decodeU8) (← uniqueId.asStr) (← action.asStr) payload
  | _ => none

def decodeCallResult : Json → Option RawMessage
  | .array [messageType, uniqueId, payload] => do
      return callResult (← messageType.decodeU8) (← uniqueId.asStr) payload
  | _ => none

def decodeCallError : Json → Option RawMessage
  | .array [messageType, uniqueId, errorCode, errorDescription, errorDetails] => do
      return callError (← messageType.decodeU8) (← uniqueId.asStr) (← errorCode.asStr)
        (← errorDescription.asStr) errorDetails
  | _ => none

/-- The untagged decode: the first variant that fits. -/
def fromJson (value : Json) : Option RawMessage :=
  decodeCall value <|> decodeCallResult value <|> decodeCallError value

end RawMessage

namespace RawMessage

def InRange : RawMessage → Prop
  | call messageType _ _ _ | callResult messageType _ _ | callError messageType _ _ _ _ =>
      0 ≤ messageType ∧ messageType ≤ 255

theorem errorCodeOfStr_eq_some {s : String} {code : CallErrorCode} :
    errorCodeOfStr s = some code ↔ s = code.asStr := by
  constructor
  · intro found
    unfold errorCodeOfStr at found
    split at found <;> first | (obtain rfl := Option.some.inj found; rfl) | simp at found
  · rintro rfl
    cases code <;> rfl

theorem decodeCall_eq_some {value : Json} {raw : RawMessage} (decoded : decodeCall value = some raw) :
    value = raw.toJson ∧ raw.InRange := by
  unfold decodeCall at decoded
  split at decoded
  · simp only [Option.pure_def, Option.bind_eq_bind, Option.bind_eq_some_iff,
      Json.decodeU8_eq_some, Json.asStr_eq_some, Option.some.injEq] at decoded
    obtain ⟨n, ⟨rfl, range⟩, id, rfl, action, rfl, rfl⟩ := decoded
    exact ⟨rfl, range⟩
  · simp at decoded

theorem decodeCallResult_eq_some {value : Json} {raw : RawMessage}
    (decoded : decodeCallResult value = some raw) : value = raw.toJson ∧ raw.InRange := by
  unfold decodeCallResult at decoded
  split at decoded
  · simp only [Option.pure_def, Option.bind_eq_bind, Option.bind_eq_some_iff,
      Json.decodeU8_eq_some, Json.asStr_eq_some, Option.some.injEq] at decoded
    obtain ⟨n, ⟨rfl, range⟩, id, rfl, rfl⟩ := decoded
    exact ⟨rfl, range⟩
  · simp at decoded

theorem decodeCallError_eq_some {value : Json} {raw : RawMessage}
    (decoded : decodeCallError value = some raw) : value = raw.toJson ∧ raw.InRange := by
  unfold decodeCallError at decoded
  split at decoded
  · simp only [Option.pure_def, Option.bind_eq_bind, Option.bind_eq_some_iff,
      Json.decodeU8_eq_some, Json.asStr_eq_some, Option.some.injEq] at decoded
    obtain ⟨n, ⟨rfl, range⟩, id, rfl, code, rfl, description, rfl, rfl⟩ := decoded
    exact ⟨rfl, range⟩
  · simp at decoded

theorem fromJson_eq_some {value : Json} {raw : RawMessage} :
    fromJson value = some raw ↔ value = raw.toJson ∧ raw.InRange := by
  constructor
  · intro decoded
    simp only [fromJson, Option.orElse_eq_orElse, Option.orElse_eq_or, Option.or_eq_some_iff] at decoded
    rcases decoded with call | ⟨-, callResult | ⟨-, callError⟩⟩
    · exact decodeCall_eq_some call
    · exact decodeCallResult_eq_some callResult
    · exact decodeCallError_eq_some callError
  · rintro ⟨rfl, range⟩
    cases raw with
    | call n id action payload =>
        simp [fromJson, toJson, decodeCall, Json.decodeU8_eq_some.mpr ⟨rfl, range⟩, Json.asStr]
    | callResult n id payload =>
        simp [fromJson, toJson, decodeCall, decodeCallResult,
          Json.decodeU8_eq_some.mpr ⟨rfl, range⟩, Json.asStr]
    | callError n id code description details =>
        simp [fromJson, toJson, decodeCall, decodeCallResult, decodeCallError,
          Json.decodeU8_eq_some.mpr ⟨rfl, range⟩, Json.asStr]

theorem intoMessage_eq_ok {raw : RawMessage} {message : Message} :
    raw.intoMessage = .ok message ↔ raw = ofMessage message ∧ message.Typed := by
  constructor
  · intro converted
    cases raw with
    | call n id action payload =>
        simp only [intoMessage] at converted
        split_ifs at converted with two
        obtain rfl := Except.ok.inj converted
        obtain rfl := not_not.mp two
        exact ⟨rfl, rfl⟩
    | callResult n id payload =>
        simp only [intoMessage] at converted
        split_ifs at converted with three
        obtain rfl := Except.ok.inj converted
        obtain rfl := not_not.mp three
        exact ⟨rfl, rfl⟩
    | callError n id errorCode description details =>
        simp only [intoMessage] at converted
        split_ifs at converted with four
        cases known : errorCodeOfStr errorCode with
        | none => simp [known] at converted
        | some code =>
            simp only [known] at converted
            obtain rfl := Except.ok.inj converted
            obtain rfl := not_not.mp four
            obtain rfl := errorCodeOfStr_eq_some.mp known
            exact ⟨rfl, rfl⟩
  · rintro ⟨rfl, typed⟩
    cases message with
    | call message => simp [ofMessage, intoMessage, ← show message.messageType = .call from typed]
    | callResult message =>
        simp [ofMessage, intoMessage, ← show message.messageType = .callResult from typed]
    | callError message =>
        simp [ofMessage, intoMessage, errorCodeOfStr_eq_some.mpr rfl,
          ← show message.messageType = .callError from typed]

theorem ofMessage_inRange (message : Message) : (ofMessage message).InRange := by
  cases message <;> exact ⟨by decide, by decide⟩

end RawMessage

def FramesMessage (value : Json) (message : Message) : Prop :=
  ∃ raw, RawMessage.fromJson value = some raw ∧ raw.intoMessage = .ok message

/-- The arrays of OCPP-J. -/
inductive Framed : Json → Prop
  | call (uniqueId action : String) (payload : Json) :
      Framed (.array [.number (.posInt 2), .string uniqueId, .string action, payload])
  | callResult (uniqueId : String) (payload : Json) :
      Framed (.array [.number (.posInt 3), .string uniqueId, payload])
  | callError (uniqueId : String) (code : CallErrorCode) (errorDescription : String)
      (errorDetails : Json) :
      Framed (.array [.number (.posInt 4), .string uniqueId, .string code.asStr,
        .string errorDescription, errorDetails])

theorem framed_iff (value : Json) :
    Framed value ↔ ∃ message : Message, message.Typed ∧ value = (RawMessage.ofMessage message).toJson := by
  constructor
  · rintro (⟨id, action, payload⟩ | ⟨id, payload⟩ | ⟨id, code, description, details⟩)
    · exact ⟨.call ⟨.call, id, action, payload⟩, rfl, rfl⟩
    · exact ⟨.callResult ⟨.callResult, id, payload⟩, rfl, rfl⟩
    · exact ⟨.callError ⟨.callError, id, code, description, details⟩, rfl, rfl⟩
  · rintro ⟨message | message | message, typed, rfl⟩
    · exact .call _ _ _
    · exact .callResult _ _
    · exact .callError _ _ _ _

/-- The array form of a message is read back as the message; a value that is read as a message is its
array form; and the values read as messages are the arrays of OCPP-J. -/
theorem rawMessage_roundTrip :
    (∀ message : Message, message.Typed →
      (RawMessage.ofMessage message).intoMessage = .ok message) ∧
    (∀ value message, FramesMessage value message →
      (RawMessage.ofMessage message).toJson = value) ∧
    ∀ value, (∃ message, FramesMessage value message) ↔ Framed value := by
  have framed (value : Json) (message : Message) : FramesMessage value message ↔
      message.Typed ∧ value = (RawMessage.ofMessage message).toJson := by
    simp only [FramesMessage, RawMessage.fromJson_eq_some, RawMessage.intoMessage_eq_ok]
    constructor
    · rintro ⟨raw, ⟨rfl, -⟩, rfl, typed⟩
      exact ⟨typed, rfl⟩
    · rintro ⟨typed, rfl⟩
      exact ⟨_, ⟨rfl, RawMessage.ofMessage_inRange message⟩, rfl, typed⟩
  refine ⟨fun message typed => RawMessage.intoMessage_eq_ok.mpr ⟨rfl, typed⟩,
    fun value message read => ((framed value message).mp read).2.symm, fun value => ?_⟩
  simp only [framed, framed_iff]

theorem mistyped_call_not_roundTrip :
    (RawMessage.ofMessage (.call ⟨.callResult, "1", "Heartbeat", .object []⟩)).intoMessage ≠
      .ok (.call ⟨.callResult, "1", "Heartbeat", .object []⟩) := by
  intro same
  have typed := (RawMessage.intoMessage_eq_ok.mp same).2
  exact absurd typed (by simp [Message.Typed])

end Ocpp
