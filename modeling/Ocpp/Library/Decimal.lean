import Mathlib.Algebra.Order.Ring.Int
import Mathlib.Data.Nat.Digits.Defs
import Mathlib.Data.Rat.Cast.Order
import Mathlib.Tactic.FieldSimp
import Mathlib.Tactic.Ring
import Ocpp.Library.Text

/-!
# Decimal numbers

Checked arithmetic on 128-bit integers, the reading of one from its digits, and numbers in plain decimal notation.
-/

namespace Ocpp.Library

/-! ## 128-bit integers -/

namespace I128

def min : Int := -170141183460469231731687303715884105728
def max : Int := 170141183460469231731687303715884105727

def Fits (n : Int) : Prop := min ≤ n ∧ n ≤ max

instance (n : Int) : Decidable (Fits n) := inferInstanceAs (Decidable (_ ∧ _))

def checked (n : Int) : Option Int := if Fits n then some n else none

def checkedMul (a b : Int) : Option Int := checked (a * b)

def checkedPow (base : Int) (exp : Nat) : Option Int := checked (base ^ exp)

/-- The operator `%`, which panics on a zero divisor and on the one quotient that does not fit. -/
def rem (a b : Int) : Option Int :=
  if b = 0 ∨ a = min ∧ b = -1 then none else some (a.tmod b)

def digitValue (c : Char) : Option Nat :=
  if '0' ≤ c ∧ c ≤ '9' then some (c.toNat - '0'.toNat) else none

def parseDigits (digits : List Char) : Option Nat :=
  if digits = [] then none
  else (digits.mapM digitValue).map fun values => Nat.ofDigits 10 values.reverse

/-- `parse` of a text as an `i128`. -/
def parse : List Char → Option Int
  | '+' :: digits => (parseDigits digits).bind fun n => checked n
  | '-' :: digits => (parseDigits digits).bind fun n => checked (-n)
  | digits => (parseDigits digits).bind fun n => checked n

theorem checked_of_fits {n : Int} (fits : Fits n) : checked n = some n := if_pos fits

theorem checked_of_not_fits {n : Int} (fits : ¬Fits n) : checked n = none := if_neg fits

theorem ten_pow_mod (exp : Nat) : (10 : Int) ^ exp = 1 ∨ (10 : Int) ^ exp % 10 = 0 := by
  cases exp with
  | zero => exact Or.inl rfl
  | succ exp => exact Or.inr (Int.emod_eq_zero_of_dvd (dvd_pow_self 10 (Nat.succ_ne_zero exp)))

theorem fits_pow_of_mul {a : Int} {exp : Nat} (fits : Fits (a * 10 ^ exp)) (nonzero : a ≠ 0) :
    Fits (10 ^ exp) := by
  have size : ((10 : Int) ^ exp).natAbs ≤ (a * 10 ^ exp).natAbs := by
    rw [Int.natAbs_mul]
    exact Nat.le_mul_of_pos_left _ (Int.natAbs_pos.mpr nonzero)
  have positive : (0 : Int) < 10 ^ exp := by positivity
  -- the only other candidate is `-min`, which is not a power of ten
  have digit := ten_pow_mod exp
  unfold Fits min max at *
  generalize (10 : Int) ^ exp = power at *
  omega

end I128

/-! ## Plain notation -/

/-- A sign, whole digits and, after a point, fraction digits. -/
structure PlainDecimal where
  negative : Bool
  whole : List (Fin 10)
  fraction : Option (List (Fin 10))
  whole_ne_nil : whole ≠ []

namespace PlainDecimal

variable (d : PlainDecimal)

def digitChars (digits : List (Fin 10)) : List Char :=
  digits.map fun digit => Nat.digitChar digit.val

def chars : List Char :=
  (if d.negative then ['-'] else []) ++ digitChars d.whole ++
    match d.fraction with
    | none => []
    | some fraction => '.' :: digitChars fraction

def positional (digits : List (Fin 10)) : Nat :=
  Nat.ofDigits 10 (digits.map Fin.val).reverse

def fractionDigits : List (Fin 10) := d.fraction.getD []

def scale : Nat := d.fractionDigits.length

def sign : Int := if d.negative then -1 else 1

def value : ℚ :=
  d.sign * (positional d.whole + positional d.fractionDigits / 10 ^ d.scale)

/-- The number without its point. -/
def mantissa : Int :=
  d.sign * positional (d.whole ++ d.fractionDigits)

theorem positional_append (digits rest : List (Fin 10)) :
    positional (digits ++ rest) = positional digits * 10 ^ rest.length + positional rest := by
  simp only [positional, List.map_append, List.reverse_append, Nat.ofDigits_append, List.length_reverse,
    List.length_map]
  ring

theorem mantissa_eq : (d.mantissa : ℚ) = d.value * 10 ^ d.scale := by
  have power : (10 : ℚ) ^ d.scale ≠ 0 := by positivity
  have length : d.fractionDigits.length = d.scale := rfl
  simp only [mantissa, value, positional_append, length]
  push_cast
  field_simp

/-! ## Reading -/

theorem digitChars_append (digits rest : List (Fin 10)) :
    digitChars (digits ++ rest) = digitChars digits ++ digitChars rest :=
  List.map_append

theorem digitValue_digitChar (digit : Fin 10) : I128.digitValue (Nat.digitChar digit.val) = some digit.val := by
  revert digit
  decide

theorem mapM_digitValue (digits : List (Fin 10)) :
    (digitChars digits).mapM I128.digitValue = some (digits.map Fin.val) := by
  induction digits with
  | nil => rfl
  | cons digit rest ih =>
      simp only [digitChars, List.map_cons, List.mapM_cons] at ih ⊢
      rw [digitValue_digitChar, ih]
      rfl

theorem parseDigits_digitChars {digits : List (Fin 10)} (some_digit : digits ≠ []) :
    I128.parseDigits (digitChars digits) = some (positional digits) := by
  have chars : digitChars digits ≠ [] := by simpa [digitChars] using some_digit
  simp [I128.parseDigits, chars, mapM_digitValue, positional]

theorem digitChar_mem (digit : Fin 10) : Nat.digitChar digit.val ∈ "0123456789".toList := by
  revert digit
  decide

theorem not_mem_digitChars {c : Char} (digits : List (Fin 10)) (other : c ∉ "0123456789".toList) :
    c ∉ digitChars digits := by
  intro member
  obtain ⟨digit, -, rfl⟩ := List.mem_map.mp member
  exact other (digitChar_mem digit)

/-- The digits of a number, read with its sign. -/
theorem parse_digits {digits : List (Fin 10)} (some_digit : digits ≠ []) (negative : Bool) :
    I128.parse ((if negative then ['-'] else []) ++ digitChars digits) =
      I128.checked ((if negative then -1 else 1) * positional digits) := by
  have parsed := parseDigits_digitChars some_digit
  cases negative with
  | true => simp [I128.parse, parsed]
  | false =>
      have plus := not_mem_digitChars (c := '+') digits (by decide)
      have minus := not_mem_digitChars (c := '-') digits (by decide)
      simp only [Bool.false_eq_true, if_false, List.nil_append]
      unfold I128.parse
      split
      · rename_i rest same
        exact absurd (same ▸ List.mem_cons_self) plus
      · rename_i rest same
        exact absurd (same ▸ List.mem_cons_self) minus
      · simp [parsed]

end PlainDecimal

end Ocpp.Library
