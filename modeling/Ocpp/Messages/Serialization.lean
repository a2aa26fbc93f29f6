import Ocpp.Library.HashMap
import Ocpp.Types.Message

/-!
# The message serializer

`serialization.rs`: messages as text in the array form, within a size that depends on the OCPP version.
Of the rules of a version only the size is read.
-/

namespace Ocpp
open Library

structure SerializationRules where
  maxMessageSize : Nat
  deriving DecidableEq, Repr

def SerializationRules.default : SerializationRules := ⟨65536⟩

structure MessageSerializer where
  versionRules : HashMap String SerializationRules

namespace MessageSerializer

def new : MessageSerializer where
  versionRules := ((∅ : HashMap String SerializationRules).insert "1.6J" ⟨65536⟩).insert "2.0.1" ⟨131072⟩

def addVersionRules (serializer : MessageSerializer) (version : String) (rules : SerializationRules) :
    MessageSerializer where
  versionRules := serializer.versionRules.insert version rules

def rules (serializer : MessageSerializer) (version : String) : SerializationRules :=
  (serializer.versionRules.lookup version).getD .default

def sizeError (size limit : Nat) : OcppError :=
  .validationError ("Message size " ++ toString size ++ " exceeds maximum allowed size " ++
    toString limit)

variable (text : JsonText)

def serializeMessage (serializer : MessageSerializer) (message : Message) (version : String) :
    Except OcppError String :=
  let jsonStr := text.print (RawMessage.ofMessage message).toJson
  let limit := (serializer.rules version).maxMessageSize
  if limit < jsonStr.utf8ByteSize then .error (sizeError jsonStr.utf8ByteSize limit)
  else .ok jsonStr

/-- The decode from text, with the text of `serde` for a frame that fits no variant. -/
def rawFromStr (jsonStr : String) : Except OcppError RawMessage :=
  match text.parse jsonStr with
  | .error message => .error (.json message)
  | .ok value =>
      match RawMessage.fromJson value with
      | none => .error (.json "data did not match any variant of untagged enum RawMessage")
      | some raw => .ok raw

def deserializeMessage (serializer : MessageSerializer) (jsonStr version : String) :
    Except OcppError Message :=
  let limit := (serializer.rules version).maxMessageSize
  if limit < jsonStr.utf8ByteSize then .error (sizeError jsonStr.utf8ByteSize limit)
  else (rawFromStr text jsonStr).bind RawMessage.intoMessage

end MessageSerializer

end Ocpp
