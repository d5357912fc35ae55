/-
**Which doubles are read as they are written.**

The reader gathers the digits of a number in a word, makes a double of the word and scales that by a
power of ten. Where word and power are doubles themselves, one rounding is left, and it leads back
to the double that was written.

* `NumberText.plain`: the digits of a text as one number, and the power of ten that goes with them;
* `value_plain`: the text of a decimal number stands for that number;
* `Brief`: the digits as they are written are at most 53 bits long, and the power of ten is at most
  `10 ^ 22` either way;
* **`readsBack_of_brief`**: such a double is read as it is written;
* `isFinite_readNumber`: only finite doubles are read.
-/

import IncompleteBeta.Proofs.Decimal.Scaling
import IncompleteBeta.Proofs.Json.Number

namespace IncompleteBeta

open Binary64

/-! ### Digits in a word -/

theorem le_digitsValue (start : Nat) (digits : List Char) : start ≤ digitsValue start digits := by
  induction digits generalizing start with
  | nil => exact le_rfl
  | cons c rest ih =>
    calc start ≤ 10 * start + digitValue c := by omega
      _ ≤ digitsValue (10 * start + digitValue c) rest := ih _

theorem digitsValue_zeros (start count : Nat) :
    digitsValue start (List.replicate count '0') = start * 10 ^ count := by
  induction count generalizing start with
  | zero => rw [pow_zero, mul_one]; rfl
  | succ count ih =>
    have first : digitsValue start (List.replicate (count + 1) '0') =
        digitsValue (10 * start) (List.replicate count '0') := rfl
    rw [first, ih, pow_succ]
    ring

/-- Digits that fit a word are all gathered. -/
theorem gatherDigits_of_lt {word : Nat} {digits : List Char}
    (fits : digitsValue word digits < 2 ^ 64) :
    gatherDigits word digits = (digitsValue word digits, []) := by
  induction digits generalizing word with
  | nil => rfl
  | cons c rest ih =>
    have first : digitsValue word (c :: rest) = digitsValue (10 * word + digitValue c) rest := rfl
    rw [first] at fits ⊢
    have below := (le_digitsValue (10 * word + digitValue c) rest).trans_lt fits
    rw [gatherDigits, if_pos (by rw [Nat.shiftLeft_eq]; omega), ih fits]

/-- What is gathered fits a word. -/
theorem gatherDigits_lt {word : Nat} (fits : word < 2 ^ 64) (digits : List Char) :
    (gatherDigits word digits).1 < 2 ^ 64 := by
  induction digits generalizing word with
  | nil => exact fits
  | cons c rest ih =>
    unfold gatherDigits
    split
    next more => exact ih (by rw [Nat.shiftLeft_eq] at more; omega)
    next => exact fits

namespace Json

/-- The digits of a number text as one number, and the power of ten that goes with them. -/
def NumberText.plain (written : NumberText) : Decimal :=
  ⟨digitsValue 0 (written.whole ++ written.fraction),
    written.exponent.getD 0 - written.fraction.length⟩

theorem decimal_eq_plain {written : NumberText} (fits : written.plain.coefficient < 2 ^ 64) :
    written.decimal = written.plain := by
  have all : digitsValue (digitsValue 0 written.whole) written.fraction < 2 ^ 64 := by
    rw [← digitsValue_append]
    exact fits
  have whole := gatherDigits_of_lt ((le_digitsValue _ written.fraction).trans_lt all)
  have fraction := gatherDigits_of_lt all
  rw [NumberText.decimal, whole]
  dsimp only
  rw [fraction]
  dsimp only
  rw [NumberText.plain, digitsValue_append]
  congr 1
  simp only [List.length_nil]
  omega

theorem coefficient_decimal_lt (written : NumberText) : written.decimal.coefficient < 2 ^ 64 := by
  have empty : 0 < 2 ^ 64 := by norm_num
  exact gatherDigits_lt (gatherDigits_lt empty written.whole) written.fraction

/-- Writing a decimal number adds zeros to its digits at most. -/
theorem plain_written (d : Decimal) :
    ∃ count : Nat, d.written.plain = ⟨d.coefficient * 10 ^ count, d.exponent - count⟩ := by
  have digits : digitsValue 0 d.digits = d.coefficient := digitsValue_toDigits _
  have nonempty : 0 < d.digits.length := List.length_pos_of_ne_nil d.digits_ne_nil
  have leading : d.leadingExponent = d.exponent + d.digits.length - 1 := rfl
  unfold Decimal.written NumberText.plain
  split
  next =>
    dsimp only
    split
    next behind =>
      refine ⟨0, ?_⟩
      have zeros : '0' :: (List.replicate (-(d.leadingExponent + 1)).toNat '0' ++ d.digits) =
          List.replicate ((-(d.leadingExponent + 1)).toNat + 1) '0' ++ d.digits := rfl
      rw [List.cons_append, List.nil_append, zeros, digitsValue_append, digitsValue_zeros, zero_mul,
        digits, pow_zero, mul_one, List.length_append, List.length_replicate, Option.getD_none]
      congr 1
      omega
    next ahead =>
      split
      next short =>
        refine ⟨(d.leadingExponent + 1).toNat - d.digits.length + 1, ?_⟩
        have zeros (count : Nat) : d.digits ++ List.replicate count '0' ++ ['0'] =
            d.digits ++ List.replicate (count + 1) '0' := by
          rw [List.append_assoc, List.replicate_succ']
        rw [zeros, digitsValue_append, digitsValue_zeros, digits, Option.getD_none]
        congr 1
        rw [List.length_singleton]
        omega
      next long =>
        refine ⟨0, ?_⟩
        rw [List.take_append_drop, digits, pow_zero, mul_one, List.length_drop, Option.getD_none]
        congr 1
        omega
  next =>
    refine ⟨0, ?_⟩
    rw [List.take_append_drop, digits, pow_zero, mul_one, List.length_drop, Option.getD_some]
    congr 1
    omega

/-- **The text of a decimal number stands for that number.** -/
theorem value_plain (d : Decimal) : d.written.plain.value = d.value := by
  obtain ⟨count, plain_eq⟩ := plain_written d
  rw [plain_eq, Decimal.value, Decimal.value, zpow_sub₀ (by norm_num), zpow_natCast]
  push_cast
  field_simp

/-! ### Brief doubles -/

/-- **The digits as they are written are at most 53 bits long, and the power of ten is at most
`10 ^ 22` either way.** -/
structure Brief (x : Float) : Prop where
  digits : (shortestDecimal .toEven x).written.plain.coefficient < 2 ^ 53
  down : -22 ≤ (shortestDecimal .toEven x).written.plain.exponent
  up : (shortestDecimal .toEven x).written.plain.exponent ≤ 22

section Brief

variable {x : Float}

/-- A double is what its digits are rounded to. -/
theorem value_eq_rounded (finite : x.isFinite = true) :
    value x = rounded (signed (signOf (signBit x)) (shortestDecimal .toEven x).value) := by
  rw [rounded_signed, rounded_shortest .toEven finite, value_eq_exact finite, abs_signed,
    abs_of_nonneg (by positivity)]

theorem rounds_self (finite : x.isFinite = true) :
    Rounds x (signed (signOf (signBit x)) (shortestDecimal .toEven x).value) := by
  have value_eq := value_eq_rounded finite
  refine ⟨fun _ => ⟨finite, value_eq⟩, fun overflow => ?_⟩
  rw [← value_eq] at overflow
  exact absurd (abs_realOf_lt (canonical_parts x)) (not_lt.mpr overflow)

theorem scaled_zero (negative : Bool) :
    (Decimal.written ⟨0, 0⟩).decimal.scaled? negative = some (if negative then -0.0 else 0.0) := by
  cases negative <;> decide +kernel

theorem shortest_zero (finite : x.isFinite = true) (zero : value x = 0) :
    shortestDecimal .toEven x = ⟨0, 0⟩ := by
  rw [shortestDecimal, if_pos]
  rw [beq_iff finite isFinite_zero, zero, value_zero]

/-- A zero is known by its sign. -/
theorem signedZero_eq (finite : x.isFinite = true) (zero : value x = 0) :
    (if signBit x then -0.0 else 0.0) = x := by
  refine eq_of_parts_eq ?_
  rcases parts_of_isFinite finite with ⟨_, parts_eq⟩ | ⟨positive, parts_eq⟩
  · rw [parts_eq]
    cases signBit x <;> rfl
  · rw [value_eq_exact finite] at zero
    have magnitude : ((exact x).mantissa.natAbs : ℝ) * 2 ^ (exact x).exponent ≠ 0 := by positivity
    cases sign : signOf (signBit x) with
    | positive => exact absurd (by rwa [sign] at zero) magnitude
    | negative => exact absurd (by rwa [sign] at zero) (neg_ne_zero.mpr magnitude)

/-- Zeros are read with their sign. -/
theorem reread_zero (finite : x.isFinite = true) (zero : value x = 0) : reread? x = some x := by
  rw [reread?, shortest_zero finite zero, scaled_zero, signedZero_eq finite zero]

/-- **A brief double is read as it is written.** -/
theorem readsBack_of_brief (finite : x.isFinite = true) (brief : Brief x) : ReadsBack x := by
  rw [readsBack_iff finite, reread]
  suffices same : reread? x = some x by rw [same]; rfl
  by_cases zero : value x = 0
  · exact reread_zero finite zero
  · obtain ⟨digits, down, up⟩ := brief
    obtain ⟨y, found, rounds⟩ := rounds_scaled (signBit x) digits down up
    rw [value_plain] at rounds
    rw [value_eq_rounded finite] at zero
    rw [reread?, decimal_eq_plain (by omega), found, rounds.unique (rounds_self finite) zero]

end Brief

/-! ### Numbers that are read -/

section Meaning

variable {negative : Bool} {written : NumberText}

/-- **Only finite doubles are read.** -/
theorem isFinite_meaning {x : Float} (meaning : written.meaning? negative = some (.float x)) :
    x.isFinite = true := by
  unfold NumberText.meaning? at meaning
  dsimp only at meaning
  generalize (written.fraction.isEmpty && written.exponent.isNone && _) = integral at meaning
  cases integral with
  | true => cases meaning
  | false =>
    obtain ⟨y, scaled, same⟩ := Option.map_eq_some_iff.mp meaning
    cases same
    exact isFinite_scaled (coefficient_decimal_lt written) scaled

/-- Only integers of a word are read. -/
theorem natAbs_meaning {n : Int} (meaning : written.meaning? negative = some (.integer n)) :
    n.natAbs < 2 ^ 64 := by
  unfold NumberText.meaning? at meaning
  dsimp only at meaning
  generalize digitsValue 0 written.whole = magnitude at meaning
  have float (found : Option Float) : found.map Number.float ≠ some (.integer n) := by
    cases found <;> exact nofun
  cases negative with
  | true =>
    rw [if_pos rfl, if_pos rfl] at meaning
    split at meaning
    next inside =>
      simp only [Bool.and_eq_true, decide_eq_true_eq, Nat.shiftLeft_eq] at inside
      cases meaning
      omega
    next => exact absurd meaning (float _)
  | false =>
    rw [if_neg Bool.false_ne_true, if_neg Bool.false_ne_true] at meaning
    split at meaning
    next inside =>
      simp only [Bool.and_eq_true, decide_eq_true_eq, Nat.shiftLeft_eq] at inside
      cases meaning
      omega
    next => exact absurd meaning (float _)

end Meaning

end Json

end IncompleteBeta
