import Ocpp.Messages.Serialization

/-!
# Frames of the transport

The server and the client write messages in the object form and read them back by the name under
`"0"`. The message serializer writes and reads the array form, so neither side reads a frame of the
other.
-/

namespace Ocpp.Transport
open Library

variable (text : JsonText)

def writeFrame (message : Message) : String :=
  text.print message.toJson

def decodeFrame (frame : String) : Option Message :=
  (text.parse frame).toOption.bind Message.fromJson

def classifyFrame (frame : String) : Option Message :=
  (text.parse frame).toOption.bind fun value =>
    match (value.get "0").bind Json.asStr with
    | some "CALLERROR" => (CallErrorMessage.fromJson value).map .callError
    | some "CALLRESULT" => (CallResultMessage.fromJson value).map .callResult
    | some "CALL" => (CallMessage.fromJson value).map .call
    | _ => decodeFrame text frame

/-- The transport reads what the serializer writes, and the serializer what the transport writes, of
one message under the rules of one version. -/
def CodecsAgree (serializer : MessageSerializer) (message : Message) (version : String) : Prop :=
  (∀ frame, serializer.serializeMessage text message version = .ok frame →
    classifyFrame text frame = some message ∧ decodeFrame text frame = some message) ∧
  ((writeFrame text message).utf8ByteSize ≤ (serializer.rules version).maxMessageSize →
    serializer.deserializeMessage text (writeFrame text message) version = .ok message)

section Formats

variable {text}

theorem fromJson_array (items : List Json) : Message.fromJson (.array items) = none := rfl

theorem rawFromJson_object (fields : List (String × Json)) :
    RawMessage.fromJson (.object fields) = none := rfl

variable (shape : text.KeepsShape)
include shape

theorem decodeFrame_array (items : List Json) : decodeFrame text (text.print (.array items)) = none := by
  unfold decodeFrame
  cases parsed : text.parse (text.print (.array items)) with
  | error message => rfl
  | ok value =>
      obtain ⟨items', rfl⟩ := shape.array items value parsed
      exact fromJson_array items'

theorem deserializeMessage_object (serializer : MessageSerializer) (fields : List (String × Json))
    (version : String) (message : Message) :
    serializer.deserializeMessage text (text.print (.object fields)) version ≠ .ok message := by
  unfold MessageSerializer.deserializeMessage MessageSerializer.rawFromStr
  dsimp only
  split_ifs with large
  · simp
  · cases parsed : text.parse (text.print (.object fields)) with
    | error message => simp [Except.bind]
    | ok value =>
        obtain ⟨fields', rfl⟩ := shape.object fields value parsed
        simp [Except.bind, rawFromJson_object]

/-- A message is never read across the two formats: the codecs agree on it only where its texts are
too large to be exchanged. -/
theorem codecsAgree_iff (serializer : MessageSerializer) (message : Message) (version : String) :
    CodecsAgree text serializer message version ↔
      (serializer.rules version).maxMessageSize <
        (text.print (RawMessage.ofMessage message).toJson).utf8ByteSize ∧
      (serializer.rules version).maxMessageSize < (writeFrame text message).utf8ByteSize := by
  obtain ⟨items, array⟩ : ∃ items, (RawMessage.ofMessage message).toJson = .array items := by
    cases message <;> exact ⟨_, rfl⟩
  obtain ⟨fields, object⟩ : ∃ fields, message.toJson = .object fields := by
    cases message <;> exact ⟨_, rfl⟩
  have unread := decodeFrame_array shape items
  have refused := deserializeMessage_object shape serializer fields version message
  simp only [CodecsAgree, MessageSerializer.serializeMessage, writeFrame, array, object]
  constructor
  · rintro ⟨written, read⟩
    refine ⟨?_, ?_⟩
    · by_contra small
      have agreed := (written _ (if_neg small)).2
      simp [unread] at agreed
    · by_contra small
      exact refused (read (not_lt.mp small))
  · rintro ⟨arrayLarge, objectLarge⟩
    refine ⟨fun frame written => ?_, fun small => absurd objectLarge (not_lt.mpr small)⟩
    simp [arrayLarge] at written

end Formats

/-! ## A heartbeat -/

def heartbeatCall : Message :=
  .call ⟨.call, "19223201", "Heartbeat", .object []⟩

def heartbeatArray : String :=
  "[2,\"19223201\",\"Heartbeat\",\x7b\x7d]"

def heartbeatObject : String :=
  "\x7b\"0\":\"CALL\",\"1\":\"19223201\",\"2\":\"Heartbeat\",\"3\":\x7b\x7d\x7d"

/-- `serde_json` on values nested no deeper than a heartbeat, reading back its two texts. -/
def flatText : JsonText where
  print value :=
    let leaf : Json → String
      | .number (.posInt n) => toString n
      | .string s => "\"" ++ s ++ "\""
      | .object [] => "\x7b\x7d"
      | _ => "null"
    match value with
    | .array items => "[" ++ ",".intercalate (items.map leaf) ++ "]"
    | .object fields =>
        "\x7b" ++ ",".intercalate (fields.map fun (key, item) => "\"" ++ key ++ "\":" ++ leaf item) ++
          "\x7d"
    | item => leaf item
  parse frame :=
    if frame = heartbeatArray then .ok (RawMessage.ofMessage heartbeatCall).toJson
    else if frame = heartbeatObject then .ok heartbeatCall.toJson
    else .error "expected value at line 1 column 1"

theorem flatText_parse {frame : String} {value : Json} (read : flatText.parse frame = .ok value) :
    frame = heartbeatArray ∧ value = (RawMessage.ofMessage heartbeatCall).toJson ∨
      frame = heartbeatObject ∧ value = heartbeatCall.toJson := by
  simp only [flatText] at read
  split_ifs at read with array object
  · exact Or.inl ⟨array, (Except.ok.inj read).symm⟩
  · exact Or.inr ⟨object, (Except.ok.inj read).symm⟩

theorem flatText_keepsShape : flatText.KeepsShape := by
  constructor
  · intro items value read
    rcases flatText_parse read with ⟨-, rfl⟩ | ⟨same, -⟩
    · exact ⟨_, rfl⟩
    · have first := congrArg (fun s : String => s.toList.head?) same
      simp [flatText, heartbeatObject] at first
  · intro fields value read
    rcases flatText_parse read with ⟨same, -⟩ | ⟨-, rfl⟩
    · have first := congrArg (fun s : String => s.toList.head?) same
      simp [flatText, heartbeatArray] at first
    · exact ⟨_, rfl⟩

theorem heartbeat_tooLarge_agrees :
    CodecsAgree flatText (MessageSerializer.new.addVersionRules "tiny" ⟨8⟩) heartbeatCall "tiny" :=
  (codecsAgree_iff flatText_keepsShape _ heartbeatCall "tiny").mpr
    ⟨by decide +kernel, by decide +kernel⟩

theorem heartbeat_codecs_disagree : ¬CodecsAgree flatText MessageSerializer.new heartbeatCall "1.6J" := by
  rintro ⟨written, -⟩
  have sent : MessageSerializer.new.serializeMessage flatText heartbeatCall "1.6J" =
      .ok heartbeatArray := by
    rfl
  have classified : classifyFrame flatText heartbeatArray = none := by
    rfl
  simpa [classified] using (written _ sent).1

end Ocpp.Transport
