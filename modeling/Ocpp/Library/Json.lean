import Mathlib.Data.Rat.Defs

/-!
# JSON values

The value type of `serde_json` and the parts of `serde` that derived decoders are made of: an array or
an object for a struct, a name or a one-field object for a unit variant, a range check for an integer.
An object keeps its fields in the order of its map. The text form is a parameter (`JsonText`).
-/

namespace Ocpp.Library

/-- `serde_json::Number`: an unsigned number, a negative one (`negInt n` is `-(n + 1)`) or a
floating-point number. -/
inductive JsonNumber
  | posInt (n : Nat)
  | negInt (n : Nat)
  | float (value : ℚ)
  deriving DecidableEq, Repr

inductive Json
  | null
  | bool (value : Bool)
  | number (value : JsonNumber)
  | string (value : String)
  | array (items : List Json)
  | object (fields : List (String × Json))
  deriving Repr

namespace Json

def get (key : String) : Json → Option Json
  | object fields => fields.lookup key
  | _ => none

def asStr : Json → Option String
  | string value => some value
  | _ => none

def asBool : Json → Option Bool
  | bool value => some value
  | _ => none

def asU64 : Json → Option Nat
  | number (.posInt n) => some n
  | _ => none

/-- An integer of 64 bits, signed or not; a floating-point number is none. -/
def asInt : Json → Option Int
  | number (.posInt n) => some n
  | number (.negInt n) => some (Int.negSucc n)
  | _ => none

def asArray : Json → Option (List Json)
  | array items => some items
  | _ => none

def asObject : Json → Option (List (String × Json))
  | object fields => some fields
  | _ => none

def elements (value : Json) : List Json :=
  value.asArray.getD []

def isNumber : Json → Bool
  | number _ => true
  | _ => false

def isString : Json → Bool
  | string _ => true
  | _ => false

def isObject : Json → Bool
  | object _ => true
  | _ => false

/-! ## Decidable equality -/

mutual

def decEq : (a b : Json) → Decidable (a = b)
  | null, null => isTrue rfl
  | bool a, bool b => decidable_of_iff (a = b) (by simp)
  | number a, number b => decidable_of_iff (a = b) (by simp)
  | string a, string b => decidable_of_iff (a = b) (by simp)
  | array as, array bs => @decidable_of_iff _ (as = bs) (by simp) (decEqItems as bs)
  | object as, object bs => @decidable_of_iff _ (as = bs) (by simp) (decEqFields as bs)
  | null, bool _ | null, number _ | null, string _ | null, array _ | null, object _ => isFalse (by simp)
  | bool _, null | bool _, number _ | bool _, string _ | bool _, array _ | bool _, object _ => isFalse (by simp)
  | number _, null | number _, bool _ | number _, string _ | number _, array _ | number _, object _ =>
      isFalse (by simp)
  | string _, null | string _, bool _ | string _, number _ | string _, array _ | string _, object _ =>
      isFalse (by simp)
  | array _, null | array _, bool _ | array _, number _ | array _, string _ | array _, object _ =>
      isFalse (by simp)
  | object _, null | object _, bool _ | object _, number _ | object _, string _ | object _, array _ =>
      isFalse (by simp)

def decEqItems : (as bs : List Json) → Decidable (as = bs)
  | [], [] => isTrue rfl
  | [], _ :: _ | _ :: _, [] => isFalse (by simp)
  | a :: as, b :: bs =>
      @decidable_of_iff _ (a = b ∧ as = bs) (by simp) (@instDecidableAnd _ _ (decEq a b) (decEqItems as bs))

def decEqFields : (as bs : List (String × Json)) → Decidable (as = bs)
  | [], [] => isTrue rfl
  | [], _ :: _ | _ :: _, [] => isFalse (by simp)
  | (n, a) :: as, (m, b) :: bs =>
      @decidable_of_iff _ (n = m ∧ a = b ∧ as = bs) (by simp [and_assoc])
        (@instDecidableAnd _ _ _ (@instDecidableAnd _ _ (decEq a b) (decEqFields as bs)))

end

instance : DecidableEq Json := decEq

/-! ## Decoding -/

def decodeInt (low high : Int) : Json → Option Int
  | number (.posInt n) => if low ≤ n ∧ n ≤ high then some n else none
  | number (.negInt n) => if low ≤ Int.negSucc n ∧ Int.negSucc n ≤ high then some (Int.negSucc n) else none
  | _ => none

def decodeU8 : Json → Option Int := decodeInt 0 255
def decodeU32 : Json → Option Int := decodeInt 0 4294967295
def decodeI32 : Json → Option Int := decodeInt (-2147483648) 2147483647

/-- A unit variant is its name, or an object with its name as the only key and `null`. -/
def decodeVariant {α : Type*} (variant : String → Option α) : Json → Option α
  | string name => variant name
  | object [(name, null)] => variant name
  | _ => none

def decodeVec {α : Type*} (decode : Json → Option α) : Json → Option (List α)
  | array items => items.mapM decode
  | _ => none

/-- The fields of a struct: of an object by name, others being ignored, or of an array by position. -/
def structFields (names : List String) : Json → Option (List (String × Json))
  | object fields => some fields
  | array items => if items.length = names.length then some (names.zip items) else none
  | _ => none

def requiredField {α : Type*} (fields : List (String × Json)) (name : String)
    (decode : Json → Option α) : Option α :=
  (fields.lookup name).bind decode

def optionalField {α : Type*} (fields : List (String × Json)) (name : String)
    (decode : Json → Option α) : Option (Option α) :=
  match fields.lookup name with
  | none | some null => some none
  | some value => (decode value).map some

/-- The fields of a struct that skips what is `None`. -/
def present (fields : List (String × Option Json)) : List (String × Json) :=
  fields.filterMap fun (name, value) => value.map (name, ·)

def ofInt : Int → Json
  | .ofNat n => number (.posInt n)
  | .negSucc n => number (.negInt n)

theorem lookup_present {fields : List (String × Option Json)} (distinct : (fields.map Prod.fst).Nodup)
    (name : String) : (present fields).lookup name = (fields.lookup name).join := by
  induction fields with
  | nil => rfl
  | cons field rest ih =>
      obtain ⟨key, value⟩ := field
      obtain ⟨fresh, distinct⟩ := List.nodup_cons.mp distinct
      have later := ih distinct
      cases value with
      | none =>
          have skipped : present ((key, none) :: rest) = present rest := rfl
          rw [skipped, later, List.lookup_cons]
          split
          next same =>
            rw [eq_of_beq same, List.lookup_eq_none_iff.mpr]
            · rfl
            · intro field member
              rw [bne_iff_ne]
              rintro rfl
              exact fresh (List.mem_map.mpr ⟨field, member, rfl⟩)
          next => rfl
      | some value =>
          have kept : present ((key, some value) :: rest) = (key, value) :: present rest := rfl
          rw [kept, List.lookup_cons, List.lookup_cons, later]
          split <;> rfl

section Fields

variable {α : Type*} {fields : List (String × Json)} {name : String} {decode : Json → Option α}

theorem requiredField_isSome : (requiredField fields name decode).isSome ↔
    ∃ value, fields.lookup name = some value ∧ (decode value).isSome := by
  rw [requiredField, Option.isSome_bind, Option.any_eq_true]

theorem optionalField_isSome : (optionalField fields name decode).isSome ↔
    ∀ value, fields.lookup name = some value → value = null ∨ (decode value).isSome := by
  rw [optionalField]
  split
  next absent => simp [absent]
  next absent => simp [absent]
  next value _ found => cases value <;> simp_all

/-- What a struct skips is read as `None`, and what it does not skip is read back. -/
theorem optionalField_present {α : Type*} {fields : List (String × Option Json)} {name : String}
    {decode : Json → Option α} {encode : α → Json} {x : Option α} (distinct : (fields.map Prod.fst).Nodup)
    (held : fields.lookup name = some (x.map encode)) (solid : ∀ v, encode v ≠ null)
    (read : ∀ v, decode (encode v) = some v) : optionalField (present fields) name decode = some x := by
  have found := lookup_present distinct name
  rw [held, Option.join_some] at found
  cases x with
  | none => rw [optionalField, found, Option.map_none]
  | some v =>
      rw [optionalField, found, Option.map_some]
      split
      next absent => cases absent
      next absent => exact (solid v (Option.some.inj absent)).elim
      next value _ found =>
        obtain rfl := Option.some.inj found
        rw [read, Option.map_some]

theorem decodeVec_isSome {value : Json} : (decodeVec decode value).isSome ↔
    ∃ items, value = array items ∧ ∀ item ∈ items, (decode item).isSome := by
  cases value with
  | array items =>
      have mapped : (items.mapM decode).isSome ↔ ∀ item ∈ items, (decode item).isSome := by
        induction items with
        | nil => simp
        | cons item rest ih =>
            rw [List.mapM_cons, List.forall_mem_cons, ← ih]
            cases decode item <;> cases rest.mapM decode <;> simp
      simp [decodeVec, mapped]
  | _ => simp [decodeVec]

end Fields

/-- What `encode` made of a list is read as the list. -/
theorem decodeVec_map {α : Type*} {decode : Json → Option α} {encode : α → Json}
    (read : ∀ x, decode (encode x) = some x) (xs : List α) : decodeVec decode (array (xs.map encode)) = some xs := by
  induction xs with
  | nil => rfl
  | cons x rest ih =>
      simp only [decodeVec, List.map_cons, List.mapM_cons, read] at ih ⊢
      rw [ih]
      rfl

theorem decodeU8_eq_some {value : Json} {n : Int} :
    value.decodeU8 = some n ↔ value = number (.posInt n.toNat) ∧ 0 ≤ n ∧ n ≤ 255 := by
  constructor
  · intro decoded
    unfold decodeU8 decodeInt at decoded
    split at decoded
    · split_ifs at decoded with range
      obtain rfl := Option.some.inj decoded
      exact ⟨rfl, range⟩
    · split_ifs at decoded with range
      omega
    · simp at decoded
  · rintro ⟨rfl, low, high⟩
    simp [decodeU8, decodeInt, Int.toNat_of_nonneg low, low, high]

theorem decodeInt_eq (low high : Int) (value : Json) :
    value.decodeInt low high = value.asInt.filter fun n => low ≤ n ∧ n ≤ high := by
  cases value with
  | number n => cases n <;> simp [decodeInt, asInt, Option.filter]
  | _ => rfl

theorem isString_iff {value : Json} : value.isString = true ↔ ∃ s, value = string s := by
  cases value <;> simp [isString]

theorem isObject_iff {value : Json} : value.isObject = true ↔ ∃ fields, value = object fields := by
  cases value <;> simp [isObject]

theorem asArray_eq_some {value : Json} {items : List Json} : value.asArray = some items ↔ value = array items := by
  cases value <;> simp [asArray]

theorem asObject_eq_some {value : Json} {fields : List (String × Json)} :
    value.asObject = some fields ↔ value = object fields := by
  cases value <;> simp [asObject]

theorem asStr_eq_some {value : Json} {s : String} : value.asStr = some s ↔ value = string s := by
  cases value <;> simp [asStr]

end Json

structure JsonText where
  print : Json → String
  parse : String → Except String Json

/-- What is printed as an array is read as an array, if at all, and what is printed as an object as an
object. A reader may refuse deep nesting, and may read a number as a neighbour of it. -/
structure JsonText.KeepsShape (text : JsonText) : Prop where
  array : ∀ items value, text.parse (text.print (.array items)) = .ok value →
    ∃ items', value = .array items'
  object : ∀ fields value, text.parse (text.print (.object fields)) = .ok value →
    ∃ fields', value = .object fields'

end Ocpp.Library
