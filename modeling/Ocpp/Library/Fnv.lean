import Mathlib.Data.List.Basic
import Mathlib.Data.Nat.Digits.Defs

/-!
# FNV-1a

The 64-bit FNV-1a digest of a text and its hexadecimal form. Two different states stay different under every suffix,
since the prime has an inverse modulo 2^64.
-/

namespace Ocpp.Fnv

def offset : UInt64 := 0xcbf29ce484222325
def prime : UInt64 := 0x00000100000001b3

def step (hash : UInt64) (byte : UInt8) : UInt64 :=
  (hash ^^^ byte.toUInt64) * prime

/-- `bytes` of a `str`. -/
def bytes (text : List Char) : List UInt8 :=
  text.flatMap String.utf8EncodeChar

def digestFrom (hash : UInt64) (text : List Char) : UInt64 :=
  (bytes text).foldl step hash

def digest (text : List Char) : UInt64 :=
  digestFrom offset text

/-- The last `width` hexadecimal digits, with leading zeros. -/
def hexDigits : Nat → Nat → List Char
  | 0, _ => []
  | width + 1, n => hexDigits width (n / 16) ++ [Nat.digitChar (n % 16)]

/-- `format!("{hash:016x}")` -/
def hex (hash : UInt64) : String :=
  String.ofList (hexDigits 16 hash.toNat)

theorem step_injective (byte : UInt8) : Function.Injective (step · byte) := by
  have inverse : ∀ hash : UInt64, hash * prime * 0xce965057aff6957b = hash := by
    intro hash
    have unit : prime * 0xce965057aff6957b = 1 := by decide
    rw [UInt64.mul_assoc, unit, UInt64.mul_one]
  intro hash hash' same
  have masked := congrArg (· * 0xce965057aff6957b) same
  simp only [step, inverse] at masked
  exact (UInt64.xor_left_inj byte.toUInt64).mp masked

theorem digestFrom_injective (text : List Char) : Function.Injective (digestFrom · text) := by
  have folded : ∀ (bytes : List UInt8) (hash hash' : UInt64), bytes.foldl step hash = bytes.foldl step hash' →
      hash = hash' := by
    intro bytes
    induction bytes with
    | nil => exact fun _ _ same => same
    | cons byte rest ih => exact fun hash hash' same => step_injective byte (ih _ _ same)
  exact fun hash hash' same => folded (bytes text) hash hash' same

theorem digest_append (text suffix : List Char) : digest (text ++ suffix) = digestFrom (digest text) suffix := by
  rw [digest, digest, digestFrom, digestFrom, digestFrom, bytes, bytes, bytes, List.flatMap_append, List.foldl_append]

theorem digitChar_injective : ∀ m < 16, ∀ n < 16, Nat.digitChar m = Nat.digitChar n → m = n := by
  decide

theorem hexDigits_injective {width m n : Nat} (same : hexDigits width m = hexDigits width n) :
    m % 16 ^ width = n % 16 ^ width := by
  induction width generalizing m n with
  | zero => simp [Nat.mod_one]
  | succ width ih =>
      obtain ⟨upper, lower⟩ := List.append_inj' same rfl
      have digit := digitChar_injective _ (Nat.mod_lt m (by decide)) _ (Nat.mod_lt n (by decide)) (List.cons.inj lower).1
      rw [Nat.pow_succ', Nat.mod_mul, Nat.mod_mul, digit, ih upper]

theorem hex_injective : Function.Injective hex := by
  intro hash hash' same
  have digits := hexDigits_injective (String.ofList_injective same)
  rw [show 16 ^ 16 = 2 ^ 64 from rfl] at digits
  rw [Nat.mod_eq_of_lt hash.toNat_lt, Nat.mod_eq_of_lt hash'.toNat_lt] at digits
  exact UInt64.toNat_inj.mp digits

end Ocpp.Fnv
