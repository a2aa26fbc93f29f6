import Ocpp.Library.Text
import Ocpp.Messages.Encoding
import Ocpp.Messages.Schemas
import Ocpp.Types.Error

/-!
# Typed validation

`validation.rs`: the requests are checked field by field, and the first check that refuses gives the error. Their
schemas limit the same texts.
-/

namespace Ocpp.V16j
open Library

/-- A check of `validate`, with whether it has found a text longer than its limit. -/
structure Check where
  refused : Bool
  message : String
  tooLong : Bool
  refuses : tooLong → refused

/-- `len` of a `String`. -/
def len (text : String) : Nat :=
  Text.byteLen text.toList

namespace Check

def when (refused : Bool) (message : String) : Check :=
  ⟨refused, message, false, fun long => nomatch long⟩

def atMost (limit : Nat) (message text : String) : Check :=
  ⟨limit < len text, message, limit < len text, id⟩

def between (limit : Nat) (message text : String) : Check :=
  ⟨text.isEmpty || limit < len text, message, limit < len text, fun long => by rw [long, Bool.or_true]⟩

def firstRefused (checks : List Check) : Option Check :=
  checks.find? (·.refused)

/-- `validate` of a request that makes these checks. -/
def validate (checks : List Check) : Except OcppError Unit :=
  match firstRefused checks with
  | some check => .error (.validationError check.message)
  | none => .ok ()

end Check

/-! ## Requests -/

def AuthorizeRequest.checks (request : AuthorizeRequest) : List Check :=
  [.when request.idTag.isEmpty "idTag cannot be empty",
   .atMost 20 "idTag cannot be longer than 20 characters" request.idTag]

def BootNotificationRequest.checks (request : BootNotificationRequest) : List Check :=
  [.between 20 "chargePointVendor must be 1-20 characters" request.chargePointVendor,
   .between 20 "chargePointModel must be 1-20 characters" request.chargePointModel] ++
  (request.chargePointSerialNumber.map
    (.atMost 25 "chargePointSerialNumber cannot be longer than 25 characters")).toList ++
  (request.chargeBoxSerialNumber.map
    (.atMost 25 "chargeBoxSerialNumber cannot be longer than 25 characters")).toList ++
  (request.firmwareVersion.map (.atMost 50 "firmwareVersion cannot be longer than 50 characters")).toList

def StartTransactionRequest.checks (request : StartTransactionRequest) : List Check :=
  [.when (request.connectorId = 0) "connectorId must be greater than 0",
   .between 20 "idTag must be 1-20 characters" request.idTag,
   .when (request.meterStart < 0) "meterStart cannot be negative"]

def StopTransactionRequest.checks (request : StopTransactionRequest) : List Check :=
  (request.idTag.map (.between 20 "idTag must be 1-20 characters")).toList ++
  [.when (request.meterStop < 0) "meterStop cannot be negative",
   .when (request.transactionId < 0) "transactionId cannot be negative"]

/-- Connector 0 is the charge point. -/
def StatusNotificationRequest.checks (request : StatusNotificationRequest) : List Check :=
  (request.info.map (.atMost 50 "info cannot be longer than 50 characters")).toList ++
  (request.vendorErrorCode.map (.atMost 50 "vendorErrorCode cannot be longer than 50 characters")).toList ++
  (request.vendorId.map (.atMost 255 "vendorId cannot be longer than 255 characters")).toList

/-! ## Outcomes -/

def CharsWithin (limit : Nat) (text : Option String) : Prop :=
  ∀ found, text = some found → found.length ≤ limit

def BytesWithin (limit : Nat) (text : Option String) : Prop :=
  ∀ found, text = some found → len found ≤ limit

theorem length_le_len (text : String) : text.length ≤ len text := by
  rw [← String.length_toList]
  exact Text.length_le_byteLen _

theorem BytesWithin.chars {limit : Nat} {text : Option String} (within : BytesWithin limit text) :
    CharsWithin limit text :=
  fun found held => (length_le_len found).trans (within found held)

namespace Check

def Passes (checks : List Check) : Prop :=
  ∀ check ∈ checks, ¬check.refused

/-- The check that refuses has found a text that is too long. -/
def TooLong (checks : List Check) : Prop :=
  ∃ check, firstRefused checks = some check ∧ check.tooLong

variable {check : Check} {checks : List Check}

theorem validate_eq_ok : validate checks = .ok () ↔ Passes checks := by
  rw [validate, firstRefused, Passes]
  split
  next check found => simpa using ⟨check, List.mem_of_find?_eq_some found, List.find?_some found⟩
  next found => simpa using found

theorem passes_nil : Passes [] := by
  rintro _ ⟨⟩

theorem passes_cons : Passes (check :: checks) ↔ ¬check.refused ∧ Passes checks :=
  List.forall_mem_cons

theorem not_tooLong_nil : ¬TooLong [] := by
  rintro ⟨_, ⟨⟩, _⟩

theorem tooLong_cons : TooLong (check :: checks) ↔ check.tooLong ∨ ¬check.refused ∧ TooLong checks := by
  rw [TooLong, firstRefused, List.find?_cons]
  cases refused : check.refused with
  | false =>
      have short : ¬check.tooLong := fun long => by simpa [refused] using check.refuses long
      simp [TooLong, firstRefused, short]
  | true => simp

section Text

variable {limit : Nat} {message : String} {text : Option String} {checkText : String → Check}

theorem passes_text : Passes ((text.map checkText).toList ++ checks) ↔
    (∀ found, text = some found → ¬(checkText found).refused) ∧ Passes checks := by
  cases text with
  | none => simp
  | some found => simp [passes_cons]

theorem tooLong_text : TooLong ((text.map checkText).toList ++ checks) ↔
    (∃ found, text = some found ∧ (checkText found).tooLong) ∨
      (∀ found, text = some found → ¬(checkText found).refused) ∧ TooLong checks := by
  cases text with
  | none => simp
  | some found => simp [tooLong_cons]

theorem passes_atMost : Passes ((text.map (atMost limit message)).toList ++ checks) ↔
    BytesWithin limit text ∧ Passes checks := by
  simp only [passes_text, atMost, decide_eq_true_eq, not_lt, BytesWithin]

theorem tooLong_atMost : TooLong ((text.map (atMost limit message)).toList ++ checks) ↔
    (BytesWithin limit text → TooLong checks) := by
  have long : (∃ found, text = some found ∧ limit < len found) ↔ ¬BytesWithin limit text := by
    simp only [BytesWithin, not_forall, not_le, exists_prop]
  simp only [tooLong_text, atMost, decide_eq_true_eq, not_lt, long]
  rw [← BytesWithin]
  tauto

end Text

end Check

/-! ## Agreement -/

/-- A request that passes keeps to the limits of its schema, and one that keeps to them is not refused for a text that
is too long. -/
@[mk_iff lengthsAgree_iff]
structure LengthsAgree (checks : List Check) (schema : Schema) (value : Json) : Prop where
  sound : Check.validate checks = .ok () → schema.lengthsWithin value
  complete : Check.TooLong checks → ¬schema.lengthsWithin value

theorem AuthorizeRequest.lengthsWithin (request : AuthorizeRequest) :
    schema.lengthsWithin request.toJson ↔ request.idTag.length ≤ 20 := by
  rw [schema, toJson, Schema.lengthsWithin_object]
  simp [Json.lookup_present, List.lookup_cons]

@[mk_iff short_iff]
structure BootNotificationRequest.Short (request : BootNotificationRequest) : Prop where
  chargePointVendor : request.chargePointVendor.length ≤ 20
  chargePointModel : request.chargePointModel.length ≤ 20
  chargePointSerialNumber : CharsWithin 25 request.chargePointSerialNumber
  chargeBoxSerialNumber : CharsWithin 25 request.chargeBoxSerialNumber
  firmwareVersion : CharsWithin 50 request.firmwareVersion
  iccid : CharsWithin 20 request.iccid
  imsi : CharsWithin 20 request.imsi
  meterType : CharsWithin 25 request.meterType
  meterSerialNumber : CharsWithin 25 request.meterSerialNumber

theorem BootNotificationRequest.lengthsWithin (request : BootNotificationRequest) :
    schema.lengthsWithin request.toJson ↔ request.Short := by
  rw [schema, toJson, Schema.lengthsWithin_object]
  simp [Json.lookup_present, List.lookup_cons, short_iff, CharsWithin]

theorem StartTransactionRequest.lengthsWithin (print : DateTime → String) (request : StartTransactionRequest) :
    schema.lengthsWithin (request.toJson print) ↔ request.idTag.length ≤ 20 := by
  rw [schema, toJson, Schema.lengthsWithin_object]
  simp [Json.lookup_present, List.lookup_cons]

theorem StatusNotificationRequest.lengthsWithin (print : DateTime → String) (request : StatusNotificationRequest) :
    schema.lengthsWithin (request.toJson print) ↔ CharsWithin 50 request.info ∧ CharsWithin 255 request.vendorId ∧
      CharsWithin 50 request.vendorErrorCode := by
  rw [schema, toJson, Schema.lengthsWithin_object]
  simp [Json.lookup_present, List.lookup_cons, CharsWithin, ChargePointErrorCode.schema, ChargePointStatus.schema]

theorem SampledValue.lengthsWithin (value : Json) : schema.lengthsWithin value := by
  apply Schema.lengthsWithin_of_unlimited
  simp [ReadingContext.schema, ValueFormat.schema, Measurand.schema, Phase.schema, Location.schema,
    UnitOfMeasure.schema]

theorem MeterValue.lengthsWithin (value : Json) : schema.lengthsWithin value := by
  apply Schema.lengthsWithin_of_unlimited
  simp [Schema.lengthsWithin_array SampledValue.lengthsWithin]

theorem StopTransactionRequest.lengthsWithin (print : DateTime → String) (request : StopTransactionRequest) :
    schema.lengthsWithin (request.toJson print) ↔ CharsWithin 20 request.idTag := by
  rw [schema, toJson, Schema.lengthsWithin_object]
  simp [Json.lookup_present, List.lookup_cons, CharsWithin, Reason.schema,
    Schema.lengthsWithin_array MeterValue.lengthsWithin]

/-- The text keeps to the limit in characters but not in bytes. -/
def MultiByte (limit : Nat) (text : String) : Prop :=
  text.length ≤ limit ∧ limit < len text

theorem ne_empty_of_len {limit : Nat} {text : String} (long : limit < len text) : text ≠ "" := by
  rintro rfl
  exact absurd long (Nat.not_lt_zero limit)

theorem AuthorizeRequest.agree_iff (request : AuthorizeRequest) :
    LengthsAgree request.checks schema request.toJson ↔ ¬MultiByte 20 request.idTag := by
  have bytes := length_le_len request.idTag
  have named : 20 < len request.idTag → request.idTag ≠ "" := ne_empty_of_len
  have passes : Check.Passes request.checks ↔ request.idTag ≠ "" ∧ len request.idTag ≤ 20 := by
    simp [Check.passes_cons, Check.passes_nil, checks, Check.when, Check.atMost]
  have tooLong : Check.TooLong request.checks ↔ request.idTag ≠ "" ∧ 20 < len request.idTag := by
    simp [checks, Check.tooLong_cons, Check.when, Check.atMost, Check.not_tooLong_nil]
  rw [lengthsAgree_iff, Check.validate_eq_ok, passes, tooLong, lengthsWithin, MultiByte]
  grind

theorem StartTransactionRequest.agree_iff (print : DateTime → String) (request : StartTransactionRequest) :
    LengthsAgree request.checks schema (request.toJson print) ↔
      (request.connectorId ≠ 0 → ¬MultiByte 20 request.idTag) := by
  have bytes := length_le_len request.idTag
  have passes : Check.Passes request.checks ↔
      request.connectorId ≠ 0 ∧ (request.idTag ≠ "" ∧ len request.idTag ≤ 20) ∧ 0 ≤ request.meterStart := by
    simp [Check.passes_cons, Check.passes_nil, checks, Check.when, Check.between]
  have tooLong : Check.TooLong request.checks ↔ request.connectorId ≠ 0 ∧ 20 < len request.idTag := by
    simp [checks, Check.tooLong_cons, Check.when, Check.between, Check.not_tooLong_nil]
  rw [lengthsAgree_iff, Check.validate_eq_ok, passes, tooLong, lengthsWithin, MultiByte]
  grind

theorem StopTransactionRequest.agree_iff (print : DateTime → String) (request : StopTransactionRequest) :
    LengthsAgree request.checks schema (request.toJson print) ↔
      ∀ idTag, request.idTag = some idTag → ¬MultiByte 20 idTag := by
  have passes : Check.Passes request.checks → BytesWithin 20 request.idTag := by
    intro passed idTag held
    have kept := (Check.passes_text.mp passed).1 idTag held
    simp only [Check.between, Bool.or_eq_true, decide_eq_true_eq, not_or, not_lt] at kept
    exact kept.2
  have tooLong : Check.TooLong request.checks ↔ ∃ idTag, request.idTag = some idTag ∧ 20 < len idTag := by
    simp [checks, Check.tooLong_text, Check.tooLong_cons, Check.when, Check.between, Check.not_tooLong_nil]
  rw [lengthsAgree_iff, Check.validate_eq_ok, tooLong, lengthsWithin]
  constructor
  · rintro ⟨-, complete⟩ idTag held ⟨short, long⟩
    apply complete ⟨idTag, held, long⟩
    intro found same
    rwa [Option.some.inj (held.symm.trans same)] at short
  · intro plain
    constructor
    · exact fun passed => (passes passed).chars
    · rintro ⟨idTag, held, long⟩ short
      exact plain idTag held ⟨short idTag held, long⟩

theorem StatusNotificationRequest.agree_iff (print : DateTime → String) (request : StatusNotificationRequest) :
    LengthsAgree request.checks schema (request.toJson print) ↔
      (CharsWithin 50 request.info ∧ CharsWithin 255 request.vendorId ∧ CharsWithin 50 request.vendorErrorCode →
        BytesWithin 50 request.info ∧ BytesWithin 255 request.vendorId ∧ BytesWithin 50 request.vendorErrorCode) := by
  have passes : Check.Passes request.checks ↔
      BytesWithin 50 request.info ∧ BytesWithin 50 request.vendorErrorCode ∧ BytesWithin 255 request.vendorId := by
    rw [checks, List.append_assoc, Check.passes_atMost, Check.passes_atMost, ← List.append_nil (Option.toList _),
      Check.passes_atMost]
    simp [Check.passes_nil]
  have tooLong : Check.TooLong request.checks ↔
      ¬(BytesWithin 50 request.info ∧ BytesWithin 50 request.vendorErrorCode ∧ BytesWithin 255 request.vendorId) := by
    rw [checks, List.append_assoc, Check.tooLong_atMost, Check.tooLong_atMost, ← List.append_nil (Option.toList _),
      Check.tooLong_atMost]
    simp [Check.not_tooLong_nil]
  rw [lengthsAgree_iff, Check.validate_eq_ok, passes, tooLong, lengthsWithin]
  -- Texts within their bytes are within their characters, so only the converse is left as a condition.
  grind [BytesWithin.chars]

/-- The texts that `validate` does not look at, in characters. -/
@[mk_iff uncheckedShort_iff]
structure BootNotificationRequest.UncheckedShort (request : BootNotificationRequest) : Prop where
  iccid : CharsWithin 20 request.iccid
  imsi : CharsWithin 20 request.imsi
  meterType : CharsWithin 25 request.meterType
  meterSerialNumber : CharsWithin 25 request.meterSerialNumber

/-- The optional texts that `validate` looks at, in bytes. -/
@[mk_iff optionalShort_iff]
structure BootNotificationRequest.OptionalShort (request : BootNotificationRequest) : Prop where
  chargePointSerialNumber : BytesWithin 25 request.chargePointSerialNumber
  chargeBoxSerialNumber : BytesWithin 25 request.chargeBoxSerialNumber
  firmwareVersion : BytesWithin 50 request.firmwareVersion

theorem BootNotificationRequest.agree_iff (request : BootNotificationRequest) :
    LengthsAgree request.checks schema request.toJson ↔
      ((request.chargePointVendor ≠ "" ∧ len request.chargePointVendor ≤ 20) →
        (request.chargePointModel ≠ "" ∧ len request.chargePointModel ≤ 20) → request.OptionalShort →
        request.UncheckedShort) ∧
      (request.Short → len request.chargePointVendor ≤ 20 ∧
        (request.chargePointVendor ≠ "" → len request.chargePointModel ≤ 20 ∧
          (request.chargePointModel ≠ "" → request.OptionalShort))) := by
  have vendor := length_le_len request.chargePointVendor
  have model := length_le_len request.chargePointModel
  have split : request.checks =
      .between 20 "chargePointVendor must be 1-20 characters" request.chargePointVendor ::
      .between 20 "chargePointModel must be 1-20 characters" request.chargePointModel ::
      ((request.chargePointSerialNumber.map
        (.atMost 25 "chargePointSerialNumber cannot be longer than 25 characters")).toList ++
      ((request.chargeBoxSerialNumber.map
        (.atMost 25 "chargeBoxSerialNumber cannot be longer than 25 characters")).toList ++
      ((request.firmwareVersion.map
        (.atMost 50 "firmwareVersion cannot be longer than 50 characters")).toList ++ []))) := by
    simp [checks]
  have passes : Check.Passes request.checks ↔
      (request.chargePointVendor ≠ "" ∧ len request.chargePointVendor ≤ 20) ∧
      (request.chargePointModel ≠ "" ∧ len request.chargePointModel ≤ 20) ∧ request.OptionalShort := by
    rw [split, Check.passes_cons, Check.passes_cons, Check.passes_atMost, Check.passes_atMost, Check.passes_atMost]
    simp [Check.between, Check.passes_nil, optionalShort_iff]
  have tooLong : Check.TooLong request.checks ↔
      20 < len request.chargePointVendor ∨ (request.chargePointVendor ≠ "" ∧ len request.chargePointVendor ≤ 20) ∧
      (20 < len request.chargePointModel ∨ (request.chargePointModel ≠ "" ∧ len request.chargePointModel ≤ 20) ∧
        ¬request.OptionalShort) := by
    rw [split, Check.tooLong_cons, Check.tooLong_cons, Check.tooLong_atMost, Check.tooLong_atMost,
      Check.tooLong_atMost]
    simp [Check.between, Check.not_tooLong_nil, optionalShort_iff]
  rw [lengthsAgree_iff, Check.validate_eq_ok, passes, tooLong, lengthsWithin]
  grind [BytesWithin.chars, short_iff, optionalShort_iff, uncheckedShort_iff]

/-- Where the hand-written limits and those of the schemas agree, for every request. -/
theorem validate_agrees_iff (print : DateTime → String) :
    (∀ request : AuthorizeRequest, LengthsAgree request.checks AuthorizeRequest.schema request.toJson ↔
      ¬MultiByte 20 request.idTag) ∧
    (∀ request : BootNotificationRequest, LengthsAgree request.checks BootNotificationRequest.schema request.toJson ↔
      ((request.chargePointVendor ≠ "" ∧ len request.chargePointVendor ≤ 20) →
        (request.chargePointModel ≠ "" ∧ len request.chargePointModel ≤ 20) → request.OptionalShort →
        request.UncheckedShort) ∧
      (request.Short → len request.chargePointVendor ≤ 20 ∧
        (request.chargePointVendor ≠ "" → len request.chargePointModel ≤ 20 ∧
          (request.chargePointModel ≠ "" → request.OptionalShort)))) ∧
    (∀ request : StartTransactionRequest,
      LengthsAgree request.checks StartTransactionRequest.schema (request.toJson print) ↔
        (request.connectorId ≠ 0 → ¬MultiByte 20 request.idTag)) ∧
    (∀ request : StopTransactionRequest,
      LengthsAgree request.checks StopTransactionRequest.schema (request.toJson print) ↔
        ∀ idTag, request.idTag = some idTag → ¬MultiByte 20 idTag) ∧
    ∀ request : StatusNotificationRequest,
      LengthsAgree request.checks StatusNotificationRequest.schema (request.toJson print) ↔
        (CharsWithin 50 request.info ∧ CharsWithin 255 request.vendorId ∧ CharsWithin 50 request.vendorErrorCode →
          BytesWithin 50 request.info ∧ BytesWithin 255 request.vendorId ∧ BytesWithin 50 request.vendorErrorCode) :=
  ⟨AuthorizeRequest.agree_iff, BootNotificationRequest.agree_iff, StartTransactionRequest.agree_iff print,
    StopTransactionRequest.agree_iff print, StatusNotificationRequest.agree_iff print⟩

/-- The ICCID of a SIM card is not checked, and eleven letters of two bytes are refused as longer than twenty. -/
theorem limits_disagree :
    ¬(∀ request : BootNotificationRequest,
      LengthsAgree request.checks BootNotificationRequest.schema request.toJson) ∧
    ¬∀ request : AuthorizeRequest, LengthsAgree request.checks AuthorizeRequest.schema request.toJson := by
  constructor
  · intro agrees
    have passed := (agrees ⟨"Vendor", "Model", none, none, none, some "894411000000000000001", none, none, none⟩).sound
      rfl
    revert passed
    decide +kernel
  · intro agrees
    have refused := (agrees ⟨"äöüäöüäöüäö"⟩).complete
      ⟨⟨true, "idTag cannot be longer than 20 characters", true, fun _ => rfl⟩, rfl, rfl⟩
    revert refused
    decide +kernel

end Ocpp.V16j
