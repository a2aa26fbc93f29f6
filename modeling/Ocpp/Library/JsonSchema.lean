import Ocpp.Library.Json

/-!
# JSON Schema

The part of draft 4 with one `type` for each schema: strings with `maxLength`, `enum` or the format `date-time`,
integers, arrays, and objects whose `additionalProperties` are `false`. What is a `date-time` is a parameter.
-/

namespace Ocpp.Library

inductive Schema
  | string (maxLength : Option Nat)
  | enum (values : List String)
  | dateTime
  | integer
  | array (items : Schema)
  | object (properties : List (String × Schema)) (required : List String)

namespace Schema

section Accepts

variable (isDateTime : String → Bool)

mutual

def accepts : Schema → Json → Bool
  | string maxLength, value => value.asStr.any fun text => maxLength.all (text.length ≤ ·)
  | enum values, value => value.asStr.any (· ∈ values)
  | dateTime, value => value.asStr.any isDateTime
  | integer, value => value.asInt.isSome
  | array items, value => value.asArray.any (·.all fun item => accepts items item)
  | object properties required, value => value.asObject.any fun fields =>
      required.all (fun name => (fields.lookup name).isSome) &&
        fields.all (fun field => (properties.lookup field.1).isSome) && acceptsProperties properties fields

def acceptsProperties : List (String × Schema) → List (String × Json) → Bool
  | [], _ => true
  | (name, schema) :: rest, fields =>
      (fields.lookup name).all (fun value => accepts schema value) && acceptsProperties rest fields

end

variable {isDateTime} {schema : Schema} {properties : List (String × Schema)} {needed : List String}
  {fields : List (String × Json)} {name : String} {value : Json}

theorem not_accepts_null : schema.accepts isDateTime .null = false := by
  cases schema <;> rfl

theorem object_of_accepts (accepted : (object properties needed).accepts isDateTime value) :
    ∃ fields, value = .object fields := by
  obtain ⟨fields, found, -⟩ := (Option.any_eq_true _ _).mp accepted
  exact ⟨fields, Json.asObject_eq_some.mp found⟩

theorem accepts_of_property (accepted : acceptsProperties isDateTime properties fields)
    (declared : (name, schema) ∈ properties) (found : fields.lookup name = some value) :
    schema.accepts isDateTime value := by
  induction properties with
  | nil => cases declared
  | cons property rest ih =>
      obtain ⟨here, later⟩ := (Bool.and_eq_true _ _).mp accepted
      obtain rfl | declared := List.mem_cons.mp declared
      · rw [found] at here
        exact here
      · exact ih later declared

theorem isSome_of_required (accepted : (object properties needed).accepts isDateTime (.object fields))
    (member : name ∈ needed) : (fields.lookup name).isSome := by
  simp only [accepts, Json.asObject, Option.any_some, Bool.and_eq_true, List.all_eq_true] at accepted
  exact accepted.1.1 name member

theorem accepts_property (accepted : (object properties needed).accepts isDateTime (.object fields))
    (declared : (name, schema) ∈ properties) (found : fields.lookup name = some value) :
    schema.accepts isDateTime value := by
  simp only [accepts, Json.asObject, Option.any_some, Bool.and_eq_true] at accepted
  exact accepts_of_property accepted.2 declared found

/-! ## Decoders -/

variable {α : Type*} {decode : Json → Option α} {fits : Json → Prop}

variable (isDateTime) in
/-- Of the values that the schema accepts the decoder reads those that fit. -/
def Reads (schema : Schema) (decode : Json → Option α) (fits : Json → Prop) : Prop :=
  ∀ value, schema.accepts isDateTime value → ((decode value).isSome ↔ fits value)

theorem reads_string (maxLength : Option Nat) : Reads isDateTime (string maxLength) Json.asStr fun _ => True := by
  intro value accepted
  obtain ⟨text, found, -⟩ := (Option.any_eq_true _ _).mp accepted
  rw [found]
  exact iff_of_true rfl trivial

theorem reads_dateTime {parse : String → Option α} (reads : ∀ text, isDateTime text → (parse text).isSome) :
    Reads isDateTime dateTime (fun value => value.asStr.bind parse) fun _ => True := by
  intro value accepted
  obtain ⟨text, found, stamp⟩ := (Option.any_eq_true _ _).mp accepted
  simp only [found]
  exact iff_of_true (reads text stamp) trivial

theorem reads_integer (low high : Int) : Reads isDateTime integer (Json.decodeInt low high) fun value =>
    ∀ n, value.asInt = some n → low ≤ n ∧ n ≤ high := by
  intro value accepted
  obtain ⟨n, found⟩ := Option.isSome_iff_exists.mp accepted
  simp [Json.decodeInt_eq, found, Option.filter]

theorem reads_enum (values : List String) (variant : String → Option α) :
    Reads isDateTime (enum values) (Json.decodeVariant variant) fun value =>
      ∀ name ∈ values, variant name = none → value ≠ .string name := by
  intro value accepted
  obtain ⟨name, found, member⟩ := (Option.any_eq_true _ _).mp accepted
  obtain rfl := Json.asStr_eq_some.mp found
  rw [Json.decodeVariant]
  constructor
  · rintro read name' - unread ⟨⟩
    rw [unread] at read
    cases read
  · intro known
    by_contra unread
    exact known name (by simpa using member) (Option.not_isSome_iff_eq_none.mp unread) rfl

theorem reads_enum_all {values : List String} {variant : String → Option α}
    (all : ∀ name ∈ values, (variant name).isSome) :
    Reads isDateTime (enum values) (Json.decodeVariant variant) fun _ => True := by
  intro value accepted
  rw [reads_enum values variant value accepted]
  refine iff_of_true ?_ trivial
  intro name member unread
  have read := all name member
  rw [unread] at read
  cases read

theorem reads_enum_except {values : List String} {variant : String → Option α} {other : String}
    (member : other ∈ values) (unread : ∀ name ∈ values, variant name = none ↔ name = other) :
    Reads isDateTime (enum values) (Json.decodeVariant variant) (· ≠ .string other) := by
  intro value accepted
  rw [reads_enum values variant value accepted]
  constructor
  · exact fun known => known other member ((unread other member).mpr rfl)
  · intro different name member none
    rwa [(unread name member).mp none]

theorem Reads.array (items : Reads isDateTime schema decode fits) :
    Reads isDateTime (array schema) (Json.decodeVec decode) fun value => ∀ item ∈ value.elements, fits item := by
  intro value accepted
  obtain ⟨elements, found, each⟩ := (Option.any_eq_true _ _).mp accepted
  obtain rfl := Json.asArray_eq_some.mp found
  rw [Json.decodeVec_isSome]
  constructor
  · rintro ⟨_, ⟨⟩, read⟩ item member
    exact (items item (List.all_eq_true.mp each item member)).mp (read item member)
  · intro fit
    refine ⟨elements, rfl, ?_⟩
    intro item member
    exact (items item (List.all_eq_true.mp each item member)).mpr (fit item member)

variable (name)

theorem Reads.required (reads : Reads isDateTime schema decode fits)
    (accepted : (object properties needed).accepts isDateTime (.object fields))
    (declared : (name, schema) ∈ properties) (member : name ∈ needed) :
    (Json.requiredField fields name decode).isSome ↔ ∀ value, fields.lookup name = some value → fits value := by
  obtain ⟨value, found⟩ := Option.isSome_iff_exists.mp (isSome_of_required accepted member)
  have read := reads value (accepts_property accepted declared found)
  simp only [Json.requiredField_isSome, found, Option.some.injEq, exists_eq_left', forall_eq', read]

theorem Reads.optional (reads : Reads isDateTime schema decode fits)
    (accepted : (object properties needed).accepts isDateTime (.object fields))
    (declared : (name, schema) ∈ properties) :
    (Json.optionalField fields name decode).isSome ↔ ∀ value, fields.lookup name = some value → fits value := by
  rw [Json.optionalField_isSome]
  refine forall₂_congr fun value found => ?_
  have accepted := accepts_property accepted declared found
  rw [reads value accepted, or_iff_right]
  rintro rfl
  rw [not_accepts_null] at accepted
  cases accepted

theorem Reads.required_all (reads : Reads isDateTime schema decode fun _ => True)
    (accepted : (object properties needed).accepts isDateTime (.object fields))
    (declared : (name, schema) ∈ properties) (member : name ∈ needed) :
    (Json.requiredField fields name decode).isSome :=
  (reads.required name accepted declared member).mpr fun _ _ => trivial

theorem Reads.optional_all (reads : Reads isDateTime schema decode fun _ => True)
    (accepted : (object properties needed).accepts isDateTime (.object fields))
    (declared : (name, schema) ∈ properties) : (Json.optionalField fields name decode).isSome :=
  (reads.optional name accepted declared).mpr fun _ _ => trivial

theorem required_string (accepted : (object properties needed).accepts isDateTime (.object fields))
    (declared : ∃ maxLength, (name, string maxLength) ∈ properties) (member : name ∈ needed) :
    (Json.requiredField fields name Json.asStr).isSome := by
  obtain ⟨maxLength, declared⟩ := declared
  exact (reads_string maxLength).required_all name accepted declared member

theorem optional_string (accepted : (object properties needed).accepts isDateTime (.object fields))
    (declared : ∃ maxLength, (name, string maxLength) ∈ properties) :
    (Json.optionalField fields name Json.asStr).isSome := by
  obtain ⟨maxLength, declared⟩ := declared
  exact (reads_string maxLength).optional_all name accepted declared

end Accepts

/-! ## Lengths -/

section Lengths

mutual

/-- No string is longer than the `maxLength` of its schema. -/
def lengthsWithin : Schema → Json → Bool
  | string maxLength, value => value.asStr.all fun text => maxLength.all (text.length ≤ ·)
  | enum _, _ | dateTime, _ | integer, _ => true
  | array items, value => value.asArray.all (·.all fun item => lengthsWithin items item)
  | object properties _, value => value.asObject.all fun fields => propertiesWithin properties fields

def propertiesWithin : List (String × Schema) → List (String × Json) → Bool
  | [], _ => true
  | (name, schema) :: rest, fields =>
      (fields.lookup name).all (fun value => lengthsWithin schema value) && propertiesWithin rest fields

end

@[simp] theorem lengthsWithin_enum (values : List String) (value : Json) : (enum values).lengthsWithin value := rfl
@[simp] theorem lengthsWithin_dateTime (value : Json) : dateTime.lengthsWithin value := rfl
@[simp] theorem lengthsWithin_integer (value : Json) : integer.lengthsWithin value := rfl

@[simp] theorem lengthsWithin_string {maxLength : Nat} {text : String} :
    (string (some maxLength)).lengthsWithin (.string text) ↔ text.length ≤ maxLength := by
  simp [lengthsWithin, Json.asStr]

@[simp] theorem lengthsWithin_unlimited (value : Json) : (string none).lengthsWithin value := by
  simp [lengthsWithin]

theorem lengthsWithin_array {items : Schema} (unlimited : ∀ item, items.lengthsWithin item) (value : Json) :
    (array items).lengthsWithin value := by
  rw [lengthsWithin, Option.all_eq_true]
  intro elements _
  exact List.all_eq_true.mpr fun item _ => unlimited item

theorem lengthsWithin_object {properties : List (String × Schema)} {needed : List String}
    {fields : List (String × Json)} : (object properties needed).lengthsWithin (.object fields) ↔
      ∀ property ∈ properties, ∀ value, fields.lookup property.1 = some value → property.2.lengthsWithin value := by
  change propertiesWithin properties fields ↔ _
  induction properties with
  | nil => simp [propertiesWithin]
  | cons property rest ih =>
      rw [propertiesWithin, Bool.and_eq_true, ih, List.forall_mem_cons, Option.all_eq_true]

theorem lengthsWithin_of_unlimited {properties : List (String × Schema)} {needed : List String}
    (unlimited : ∀ property ∈ properties, ∀ value, property.2.lengthsWithin value) (value : Json) :
    (object properties needed).lengthsWithin value := by
  rw [lengthsWithin, Option.all_eq_true]
  intro fields _
  have within : (object properties needed).lengthsWithin (.object fields) :=
    lengthsWithin_object.mpr fun property member value _ => unlimited property member value
  exact within

variable {isDateTime : String → Bool}

mutual

theorem lengthsWithin_of_accepts {schema : Schema} {value : Json} (accepted : schema.accepts isDateTime value) :
    schema.lengthsWithin value := by
  cases schema with
  | string maxLength =>
      obtain ⟨text, found, short⟩ := (Option.any_eq_true _ _).mp accepted
      rw [lengthsWithin, found]
      exact short
  | enum | dateTime | integer => rfl
  | array items =>
      obtain ⟨elements, found, each⟩ := (Option.any_eq_true _ _).mp accepted
      rw [lengthsWithin, found]
      apply List.all_eq_true.mpr
      intro item member
      exact lengthsWithin_of_accepts (List.all_eq_true.mp each item member)
  | object properties needed =>
      obtain ⟨fields, found, each⟩ := (Option.any_eq_true _ _).mp accepted
      rw [lengthsWithin, found]
      exact propertiesWithin_of_accepts ((Bool.and_eq_true _ _).mp each).2

theorem propertiesWithin_of_accepts {properties : List (String × Schema)} {fields : List (String × Json)}
    (accepted : acceptsProperties isDateTime properties fields) : propertiesWithin properties fields := by
  cases properties with
  | nil => rfl
  | cons property rest =>
      obtain ⟨here, later⟩ := (Bool.and_eq_true _ _).mp accepted
      apply (Bool.and_eq_true _ _).mpr
      refine ⟨?_, propertiesWithin_of_accepts later⟩
      cases found : fields.lookup property.1 with
      | none => rfl
      | some value =>
          rw [found] at here
          exact lengthsWithin_of_accepts here

end

end Lengths

end Schema

end Ocpp.Library
