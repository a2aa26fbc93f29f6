import Ocpp.Library.Decimal

/-!
# Forgiven `multipleOf` violations

`schema_validation.rs`: a violation of `multipleOf` is forgiven when the value is a multiple of the divisor as a
decimal number, which is decided on the texts that `to_string` gives for the two floating-point numbers. A panic
is `none`.
-/

namespace Ocpp.MultipleOf
open Library

/-- What the check reads of an `f64`. -/
structure F64 where
  isFinite : Bool
  toString : String

def decimalMantissaScale (x : F64) : Option (Int × Nat) :=
  let s := x.toString.toList
  if !x.isFinite then none
  else if s.any fun c => c = 'e' || c = 'E' then none
  else
    let (digits, scale) :=
      match Text.splitOnce '.' s with
      | some (intPart, fracPart) => (intPart ++ fracPart, Text.byteLen fracPart % 2 ^ 32)
      | none => (s, 0)
    (I128.parse digits).map fun mantissa => (mantissa, scale)

def isExactDecimalMultiple (value divisor : F64) : Option Bool :=
  match decimalMantissaScale value with
  | none => some false
  | some (vm, vs) =>
      match decimalMantissaScale divisor with
      | none => some false
      | some (dm, ds) =>
          if dm = 0 then some false
          else
            match (I128.checkedPow 10 ds).bind fun p => I128.checkedMul vm p with
            | none => some false
            | some num =>
                match (I128.checkedPow 10 vs).bind fun p => I128.checkedMul dm p with
                | none => some false
                | some den => if den ≠ 0 then (I128.rem num den).map fun r => r = 0 else some false

/-- The text of a finite `f64` is the shortest that is read back as the number: it has at most 17 significant
digits, and no more digits after the point than the exact value has. -/
structure F64.Prints (x : F64) (d : PlainDecimal) : Prop where
  finite : x.isFinite
  text : x.toString = String.ofList d.chars
  significant : ∃ n k : Nat, n < 10 ^ 17 ∧ d.mantissa.natAbs = n * 10 ^ k
  scale : d.scale ≤ 1074

variable {x : F64} {d : PlainDecimal}

theorem byteLen_digitChars (digits : List (Fin 10)) :
    Text.byteLen (PlainDecimal.digitChars digits) = digits.length := by
  induction digits with
  | nil => rfl
  | cons digit rest ih =>
      have ascii : (Nat.digitChar digit.val).utf8Size = 1 := by
        revert digit
        decide
      simp only [Text.byteLen, PlainDecimal.digitChars, List.map_cons] at ih ⊢
      rw [ascii, ih, List.length_cons, Nat.add_comm]

theorem chars_plain (d : PlainDecimal) (c : Char) (other : c ∉ "-.0123456789".toList) : c ∉ d.chars := by
  have digits : ∀ ds, c ∉ PlainDecimal.digitChars ds := by
    intro ds
    apply PlainDecimal.not_mem_digitChars
    simp at other ⊢
    tauto
  simp only [PlainDecimal.chars, List.mem_append, not_or]
  refine ⟨⟨?_, digits _⟩, ?_⟩
  · split <;> simp at other ⊢
    exact other.1
  · split
    · simp
    · rw [List.mem_cons, not_or]
      refine ⟨?_, digits _⟩
      simp at other
      exact other.2.1

theorem decimalMantissaScale_printed (printed : x.Prints d) :
    decimalMantissaScale x = (I128.checked d.mantissa).map fun mantissa => (mantissa, d.scale) := by
  have chars : x.toString.toList = d.chars := by rw [printed.text, String.toList_ofList]
  have plain : d.chars.any (fun c => c = 'e' || c = 'E') = false := by
    rw [List.any_eq_false]
    intro c member exponent
    rw [Bool.or_eq_true, decide_eq_true_iff, decide_eq_true_iff] at exponent
    obtain rfl | rfl := exponent
    · exact chars_plain d _ (by decide) member
    · exact chars_plain d _ (by decide) member
  have digits : d.whole ++ d.fractionDigits ≠ [] := by simp [d.whole_ne_nil]
  have parsed := PlainDecimal.parse_digits digits d.negative
  have sign : (if d.negative then -1 else 1 : Int) * PlainDecimal.positional (d.whole ++ d.fractionDigits) =
      d.mantissa := rfl
  rw [sign] at parsed
  have undotted : '.' ∉ (if d.negative then ['-'] else []) ++ PlainDecimal.digitChars d.whole := by
    have whole := PlainDecimal.not_mem_digitChars (c := '.') d.whole (by decide)
    cases d.negative <;> simpa using whole
  simp only [decimalMantissaScale, chars, plain, printed.finite, Bool.not_true, Bool.false_eq_true, if_false]
  cases fraction : d.fraction with
  | none =>
      have whole : d.chars = (if d.negative then ['-'] else []) ++ PlainDecimal.digitChars d.whole := by
        simp [PlainDecimal.chars, fraction]
      have rest : d.fractionDigits = [] := by simp [PlainDecimal.fractionDigits, fraction]
      have scale : d.scale = 0 := by simp [PlainDecimal.scale, rest]
      rw [rest, List.append_nil, ← whole] at parsed
      rw [← whole] at undotted
      rw [Text.splitOnce_eq_none undotted, parsed, scale]
  | some fractionDigits =>
      have split : d.chars = (if d.negative then ['-'] else []) ++ PlainDecimal.digitChars d.whole ++
          '.' :: PlainDecimal.digitChars fractionDigits := by
        simp [PlainDecimal.chars, fraction]
      have rest : d.fractionDigits = fractionDigits := by simp [PlainDecimal.fractionDigits, fraction]
      have scale : Text.byteLen (PlainDecimal.digitChars fractionDigits) % 2 ^ 32 = d.scale := by
        have short := printed.scale
        rw [byteLen_digitChars, PlainDecimal.scale, rest]
        rw [PlainDecimal.scale, rest] at short
        omega
      rw [rest, PlainDecimal.digitChars_append, ← List.append_assoc] at parsed
      rw [split, Text.splitOnce_append _ undotted]
      dsimp only
      rw [scale, parsed]

/-- Everything the check computes with fits, and the value is a multiple of the divisor. -/
structure Forgiven (v d : PlainDecimal) : Prop where
  value : I128.Fits v.mantissa
  divisor : I128.Fits d.mantissa
  power : I128.Fits (10 ^ d.scale)
  num : I128.Fits (v.mantissa * 10 ^ d.scale)
  den : I128.Fits (d.mantissa * 10 ^ v.scale)
  nonzero : d.value ≠ 0
  multiple : ∃ k : ℤ, v.value = k * d.value

theorem mantissa_eq_zero_iff : d.mantissa = 0 ↔ d.value = 0 := by
  have power : (10 : ℚ) ^ d.scale ≠ 0 := by positivity
  rw [← Int.cast_eq_zero (α := ℚ), d.mantissa_eq, mul_eq_zero, or_iff_left power]

/-- Divisibility of the mantissas, each scaled by the other number's power of ten, is that of the numbers. -/
theorem dvd_iff_multiple {v d : PlainDecimal} :
    d.mantissa * 10 ^ v.scale ∣ v.mantissa * 10 ^ d.scale ↔ ∃ k : ℤ, v.value = k * d.value := by
  have powers : (10 : ℚ) ^ v.scale ≠ 0 ∧ (10 : ℚ) ^ d.scale ≠ 0 := ⟨by positivity, by positivity⟩
  constructor
  · rintro ⟨k, product⟩
    refine ⟨k, ?_⟩
    have cast := congrArg (Int.cast : Int → ℚ) product
    push_cast at cast
    rw [v.mantissa_eq, d.mantissa_eq] at cast
    have common : v.value * (10 ^ v.scale * 10 ^ d.scale) = k * d.value * (10 ^ v.scale * 10 ^ d.scale) := by
      rw [← mul_assoc, cast]
      ring
    exact mul_right_cancel₀ (mul_ne_zero powers.1 powers.2) common
  · rintro ⟨k, multiple⟩
    refine ⟨k, ?_⟩
    apply Int.cast_injective (α := ℚ)
    push_cast
    rw [v.mantissa_eq, d.mantissa_eq, multiple]
    ring

theorem num_ne_min {v : PlainDecimal} (printed : x.Prints v) (scale : Nat) :
    v.mantissa * 10 ^ scale ≠ I128.min := by
  obtain ⟨n, k, few, size⟩ := printed.significant
  intro least
  have digits : n * 10 ^ (k + scale) = 170141183460469231731687303715884105728 := by
    have absolute := congrArg Int.natAbs least
    rw [Int.natAbs_mul, size, Int.natAbs_pow, Nat.mul_assoc] at absolute
    rw [Nat.pow_add]
    exact absolute
  cases exponent : k + scale with
  | zero =>
      rw [exponent, Nat.pow_zero, Nat.mul_one] at digits
      omega
  | succ e =>
      rw [exponent, Nat.pow_succ, ← Nat.mul_assoc] at digits
      omega

theorem den_ne_zero {d : PlainDecimal} (zero : d.mantissa ≠ 0) (scale : Nat) : d.mantissa * 10 ^ scale ≠ 0 :=
  mul_ne_zero zero (by positivity)

theorem rem_printed {v d : PlainDecimal} (printed : x.Prints v) (zero : d.mantissa ≠ 0) :
    I128.rem (v.mantissa * 10 ^ d.scale) (d.mantissa * 10 ^ v.scale) =
      some ((v.mantissa * 10 ^ d.scale).tmod (d.mantissa * 10 ^ v.scale)) := by
  rw [I128.rem, if_neg]
  rintro (none | ⟨least, -⟩)
  · exact den_ne_zero zero v.scale none
  · exact num_ne_min printed d.scale least

theorem isExactDecimalMultiple_printed {value divisor : F64} {v d : PlainDecimal} (printed : value.Prints v)
    (printed' : divisor.Prints d) :
    ∃ answer, isExactDecimalMultiple value divisor = some answer ∧ (answer = true ↔ Forgiven v d) := by
  -- the check gives up at the first number that does not fit
  have refused : isExactDecimalMultiple value divisor = some false → ¬Forgiven v d →
      ∃ answer, isExactDecimalMultiple value divisor = some answer ∧ (answer = true ↔ Forgiven v d) :=
    fun answer unforgiven => ⟨false, answer, by simpa using unforgiven⟩
  simp only [isExactDecimalMultiple, decimalMantissaScale_printed printed, decimalMantissaScale_printed printed']
    at refused ⊢
  by_cases fits : I128.Fits v.mantissa
  swap
  · apply refused _ fun forgiven => fits forgiven.value
    rw [I128.checked_of_not_fits fits, Option.map_none]
  rw [I128.checked_of_fits fits, Option.map_some] at refused ⊢
  by_cases fits' : I128.Fits d.mantissa
  swap
  · apply refused _ fun forgiven => fits' forgiven.divisor
    rw [I128.checked_of_not_fits fits', Option.map_none]
  rw [I128.checked_of_fits fits', Option.map_some] at refused ⊢
  by_cases zero : d.mantissa = 0
  · apply refused (if_pos zero)
    exact fun forgiven => forgiven.nonzero (mantissa_eq_zero_iff.mp zero)
  simp only [if_neg zero, I128.checkedPow, I128.checkedMul] at refused ⊢
  by_cases power : I128.Fits (10 ^ d.scale)
  swap
  · apply refused _ fun forgiven => power forgiven.power
    rw [I128.checked_of_not_fits power, Option.bind_none]
  rw [I128.checked_of_fits power, Option.bind_some] at refused ⊢
  by_cases num : I128.Fits (v.mantissa * 10 ^ d.scale)
  swap
  · apply refused _ fun forgiven => num forgiven.num
    rw [I128.checked_of_not_fits num]
  rw [I128.checked_of_fits num] at refused ⊢
  by_cases den : I128.Fits (d.mantissa * 10 ^ v.scale)
  swap
  · apply refused _ fun forgiven => den forgiven.den
    by_cases power' : I128.Fits (10 ^ v.scale)
    · rw [I128.checked_of_fits power', Option.bind_some, I128.checked_of_not_fits den]
    · rw [I128.checked_of_not_fits power', Option.bind_none]
  rw [I128.checked_of_fits (I128.fits_pow_of_mul den zero), Option.bind_some, I128.checked_of_fits den]
  refine ⟨decide ((v.mantissa * 10 ^ d.scale).tmod (d.mantissa * 10 ^ v.scale) = 0), ?_, ?_⟩
  · simp only [if_pos (den_ne_zero zero v.scale), rem_printed printed zero, Option.map_some]
  · rw [decide_eq_true_iff, ← Int.dvd_iff_tmod_eq_zero, dvd_iff_multiple]
    constructor
    · intro multiple
      exact ⟨fits, fits', power, num, den, fun none => zero (mantissa_eq_zero_iff.mpr none), multiple⟩
    · exact fun forgiven => forgiven.multiple

/-- The mantissa and the scale stand for the number as long as the mantissa fits, and the check, which never
panics, forgives exactly the multiples for which nothing it computes overflows. -/
theorem exact_decimal_multiple {value divisor : F64} {v d : PlainDecimal} (printed : value.Prints v)
    (printed' : divisor.Prints d) :
    (decimalMantissaScale value = if I128.Fits v.mantissa then some (v.mantissa, v.scale) else none) ∧
      (v.mantissa : ℚ) = v.value * 10 ^ v.scale ∧
      ∃ answer, isExactDecimalMultiple value divisor = some answer ∧ (answer = true ↔ Forgiven v d) := by
  refine ⟨?_, v.mantissa_eq, isExactDecimalMultiple_printed printed printed'⟩
  rw [decimalMantissaScale_printed printed]
  split_ifs with fits
  · rw [I128.checked_of_fits fits, Option.map_some]
  · rw [I128.checked_of_not_fits fits, Option.map_none]

def limit : PlainDecimal := ⟨false, [2, 1], some [4], by simp⟩
def step : PlainDecimal := ⟨false, [0], some [1], by simp⟩

theorem limit_prints : F64.Prints ⟨true, "21.4"⟩ limit :=
  ⟨rfl, by decide +kernel, ⟨214, 0, by decide, by decide⟩, by decide⟩

theorem step_prints : F64.Prints ⟨true, "0.1"⟩ step :=
  ⟨rfl, by decide +kernel, ⟨1, 0, by decide, by decide⟩, by decide⟩

theorem limit_forgiven : isExactDecimalMultiple ⟨true, "21.4"⟩ ⟨true, "0.1"⟩ = some true ∧ Forgiven limit step := by
  obtain ⟨-, -, answer, checked, forgiven⟩ := exact_decimal_multiple limit_prints step_prints
  have multiple : isExactDecimalMultiple ⟨true, "21.4"⟩ ⟨true, "0.1"⟩ = some true := by decide +kernel
  rw [multiple] at checked
  exact ⟨multiple, forgiven.mp (Option.some.inj checked).symm⟩

def zero : PlainDecimal := ⟨false, [0], none, by simp⟩
def tiny : PlainDecimal := ⟨false, [0], some (List.replicate 39 0 ++ [1]), by simp⟩

/-- Zero is a multiple of everything, but the scale of the divisor is beyond the powers of ten that fit. -/
theorem zero_not_forgiven :
    F64.Prints ⟨true, "0"⟩ zero ∧ F64.Prints ⟨true, "0.0000000000000000000000000000000000000001"⟩ tiny ∧
      isExactDecimalMultiple ⟨true, "0"⟩ ⟨true, "0.0000000000000000000000000000000000000001"⟩ = some false ∧
      I128.Fits zero.mantissa ∧ I128.Fits tiny.mantissa ∧ I128.Fits (zero.mantissa * 10 ^ tiny.scale) ∧
      I128.Fits (tiny.mantissa * 10 ^ zero.scale) ∧ tiny.value ≠ 0 ∧ ∃ k : ℤ, zero.value = k * tiny.value := by
  refine ⟨⟨rfl, by decide +kernel, ⟨0, 0, by decide, by decide⟩, by decide⟩,
    ⟨rfl, by decide +kernel, ⟨1, 0, by decide, by decide +kernel⟩, by decide⟩, by decide +kernel, by decide,
    by decide +kernel, by decide +kernel, by decide +kernel, ?_, 0, ?_⟩
  · rw [Ne, ← mantissa_eq_zero_iff]
    decide +kernel
  · have none : zero.value = 0 := mantissa_eq_zero_iff.mp (by decide)
    rw [none, Int.cast_zero, zero_mul]

end Ocpp.MultipleOf
