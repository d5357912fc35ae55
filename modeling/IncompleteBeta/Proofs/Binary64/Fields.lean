/-
**The fields of a double.**

The bits of a double are a sign, an exponent and stored digits, and all that can be asked of it is
in these.

* `toNat_packComponents`: the fields as a number;
* `signOf_signBit`, **`value_eq_exact`**: the fields give the sign and the exact value;
* `value_neg`, `value_abs`, `Rounds.neg`: the number of the other sign, the magnitude, and what the
  other sign is rounded to;
* `eq_of_parts_eq`, **`eq_of_value_eq`**: a double is known by its parts, and by its number where
  that is not 0;
* `Rounds.unique`: a number is rounded to one double;
* `isNaN_mul`, `isNaN_sub`, `isNaN_sub_finite`: results that may be infinite, but are numbers.
-/

import IncompleteBeta.Binary64.Exact
import IncompleteBeta.Proofs.Binary64.Arithmetic

namespace IncompleteBeta.Binary64

open Float.Model (UnpackedFloat Format)
open Float.Model.UnpackedFloat (Sign pack unpack packComponents unpackSign unpackExponent
  unpackMantissa)

/-- The sign that a sign bit stands for. -/
def signOf (negative : Bool) : Sign := if negative then .negative else .positive

theorem toNat_packComponents (sign : Sign) (exponent : BitVec 11) (stored : BitVec 52) :
    (packComponents Format.binary64 sign exponent stored).toNat =
      sign.toBitVec.toNat * 2 ^ 63 + exponent.toNat * 2 ^ 52 + stored.toNat := by
  have leading : (sign.toBitVec ++ exponent).toNat =
      sign.toBitVec.toNat * 2 ^ 11 + exponent.toNat := by
    rw [BitVec.toNat_append, ← Nat.shiftLeft_add_eq_or_of_lt (BitVec.isLt _), Nat.shiftLeft_eq]
  have whole := BitVec.toNat_append (sign.toBitVec ++ exponent) stored
  rw [← Nat.shiftLeft_add_eq_or_of_lt (BitVec.isLt _), leading, Nat.shiftLeft_eq] at whole
  refine Eq.trans whole ?_
  ring

section Fields

/-- **The fields of a double**: its bits are composed of these. -/
def HasFields (x : Float) (sign : Sign) (exponent : BitVec 11) (stored : BitVec 52) : Prop :=
  x.toBits.toBitVec = packComponents Format.binary64 sign exponent stored

theorem exists_fields (x : Float) : ∃ sign exponent stored, HasFields x sign exponent stored :=
  ⟨_, _, _, (packComponents_unpack x.toBits.toBitVec).symm⟩

variable {x : Float} {sign : Sign} {exponent : BitVec 11} {stored : BitVec 52}
  (fields : HasFields x sign exponent stored)
include fields

theorem toNat_toBits :
    x.toBits.toNat = sign.toBitVec.toNat * 2 ^ 63 + exponent.toNat * 2 ^ 52 + stored.toNat := by
  rw [← toNat_packComponents, ← fields, UInt64.toNat_toBitVec]

theorem exponentField_eq : exponentField x = exponent.toNat := by
  have range : exponent.toNat < 2 ^ 11 := exponent.isLt
  have storedRange : stored.toNat < 2 ^ 52 := stored.isLt
  rw [exponentField, toNat_toBits fields, Nat.shiftRight_eq_div_pow]
  omega

theorem fractionField_eq : fractionField x = stored.toNat := by
  have range : stored.toNat < 2 ^ 52 := stored.isLt
  rw [fractionField, toNat_toBits fields, Nat.shiftLeft_eq]
  omega

theorem signOf_signBit : signOf (signBit x) = sign := by
  have range : exponent.toNat < 2 ^ 11 := exponent.isLt
  have storedRange : stored.toNat < 2 ^ 52 := stored.isLt
  unfold signBit signOf
  rw [toNat_toBits fields, Nat.shiftLeft_eq]
  cases sign with
  | positive =>
    have bit : Sign.positive.toBitVec.toNat = 0 := rfl
    rw [bit, decide_eq_false (by omega), if_neg Bool.false_ne_true]
  | negative =>
    have bit : Sign.negative.toBitVec.toNat = 1 := rfl
    rw [bit, decide_eq_true (by omega), if_pos rfl]

/-- The exact value in terms of the fields. -/
theorem exact_eq : (exact x).mantissa.natAbs =
      (if exponent.toNat = 0 then stored.toNat else 2 ^ 52 + stored.toNat) ∧
    (exact x).exponent = if exponent.toNat = 0 then -1074 else (exponent.toNat : ℤ) - 1075 := by
  unfold exact
  rw [exponentField_eq fields, fractionField_eq fields, Nat.shiftLeft_eq, one_mul]
  dsimp only
  refine ⟨?_, rfl⟩
  generalize (if exponent.toNat = 0 then stored.toNat else 2 ^ 52 + stored.toNat) = magnitude
  split
  · rw [Int.natAbs_neg, Int.natAbs_natCast]
  · exact Int.natAbs_natCast magnitude

omit fields in
/-- **The parts of a finite double are its sign bit and its exact value.** -/
theorem parts_of_isFinite (finite : x.isFinite = true) :
    ((exact x).mantissa.natAbs = 0 ∧ parts x = .zero (signOf (signBit x))) ∨
      ∃ positive, parts x =
        .finite (signOf (signBit x)) (exact x).mantissa.natAbs (exact x).exponent positive := by
  obtain ⟨sign, exponent, stored, fields⟩ := exists_fields x
  have parts_eq : parts x = unpack Format.binary64 x.toBits.toBitVec := rfl
  obtain ⟨mantissa_eq, exponent_eq⟩ := exact_eq fields
  rw [isFinite_eq, parts_eq, fields, unpack_packComponents] at finite
  rw [parts_eq, fields, unpack_packComponents, signOf_signBit fields, mantissa_eq, exponent_eq]
  have zero_iff : exponent.toNat = 0 ↔ exponent = 0#11 :=
    ⟨fun none => BitVec.eq_of_toNat_eq none, fun zero => by rw [zero]; rfl⟩
  have stored_zero_iff : stored.toNat = 0 ↔ stored = 0#52 :=
    ⟨fun none => BitVec.eq_of_toNat_eq none, fun zero => by rw [zero]; rfl⟩
  have notTop : exponent ≠ -1#11 := by
    intro top
    rw [if_pos top] at finite
    split at finite <;> cases finite
  rw [if_neg notTop]
  by_cases least : exponent = 0#11
  · rw [if_pos least]
    simp only [if_pos (zero_iff.mpr least)]
    by_cases zero : stored = 0#52
    · rw [dif_pos zero]
      exact Or.inl ⟨stored_zero_iff.mpr zero, rfl⟩
    · rw [dif_neg zero]
      exact Or.inr ⟨Nat.pos_of_ne_zero (mt stored_zero_iff.mp zero), rfl⟩
  · rw [if_neg least]
    simp only [if_neg (mt zero_iff.mp least)]
    exact Or.inr ⟨by omega, trivial⟩

omit fields in
/-- **The number of a finite double is its exact value.** -/
theorem value_eq_exact (finite : x.isFinite = true) :
    value x = signed (signOf (signBit x)) ((exact x).mantissa.natAbs * 2 ^ (exact x).exponent) := by
  rcases parts_of_isFinite finite with ⟨zero, parts_eq⟩ | ⟨positive, parts_eq⟩
  · rw [value, parts_eq, zero, Nat.cast_zero, zero_mul]
    cases signOf (signBit x) with
    | positive => rfl
    | negative => exact neg_zero.symm
  · rw [value, parts_eq]
    rfl

end Fields

/-! ### Signs -/

section Signs

variable {x : Float}

theorem canonical_abs {u : UnpackedFloat} (canonical : Canonical u) : Canonical u.abs := by
  cases canonical with
  | notANumber => exact .notANumber
  | infinity sign => exact .infinity _
  | zero sign => exact .zero _
  | finite sign mantissa exponent positive digits full least most =>
    exact .finite _ _ _ _ digits full least most

theorem canonical_neg {u : UnpackedFloat} (canonical : Canonical u) : Canonical u.neg := by
  cases canonical with
  | notANumber => exact .notANumber
  | infinity sign => exact .infinity _
  | zero sign => exact .zero _
  | finite sign mantissa exponent positive digits full least most =>
    exact .finite _ _ _ _ digits full least most

theorem parts_abs (x : Float) : parts x.abs = (parts x).abs :=
  unpack_pack (canonical_abs (canonical_parts x))

theorem parts_neg (x : Float) : parts (-x) = (parts x).neg :=
  unpack_pack (canonical_neg (canonical_parts x))

theorem value_neg (x : Float) : value (-x) = -value x := by
  rw [value, value, parts_neg]
  cases parts x with
  | notANumber => exact neg_zero.symm
  | infinity sign => exact neg_zero.symm
  | zero sign => exact neg_zero.symm
  | finite sign mantissa exponent positive => exact signed_neg sign _

theorem isFinite_neg (x : Float) : (-x).isFinite = x.isFinite := by
  rw [isFinite_eq, isFinite_eq, parts_neg]
  cases parts x <;> rfl

theorem value_abs (x : Float) : value x.abs = |value x| := by
  rw [value, value, parts_abs]
  cases parts x with
  | notANumber => exact abs_zero.symm
  | infinity sign => exact abs_zero.symm
  | zero sign => exact abs_zero.symm
  | finite sign mantissa exponent positive =>
    have size : (0 : ℝ) ≤ mantissa * 2 ^ exponent := by positivity
    show (mantissa : ℝ) * 2 ^ exponent = |signed sign (mantissa * 2 ^ exponent)|
    rw [abs_signed, abs_of_nonneg size]

theorem isFinite_abs (x : Float) : x.abs.isFinite = x.isFinite := by
  rw [isFinite_eq, isFinite_eq, parts_abs]
  cases parts x <;> rfl

/-- The other sign is rounded with it. -/
theorem Rounds.neg {v : ℝ} (rounds : Rounds x v) : Rounds (-x) (-v) := by
  refine ⟨fun range => ?_, fun overflow => ?_⟩
  · rw [rounded_neg, abs_neg] at range
    obtain ⟨finite, value_eq⟩ := rounds.finite range
    exact ⟨by rw [isFinite_neg, finite], by rw [value_neg, value_eq, rounded_neg]⟩
  · rw [rounded_neg, abs_neg] at overflow
    have nonzero : v ≠ 0 := by
      rintro rfl
      rw [rounded_zero, abs_zero] at overflow
      exact absurd overflow (not_le.mpr (by positivity))
    rw [parts_neg, rounds.infinite overflow]
    rcases lt_or_gt_of_ne nonzero with below | above
    · rw [if_pos below, if_neg (by linarith)]
      rfl
    · rw [if_neg (by linarith), if_pos (by linarith)]
      rfl

end Signs

/-! ### Equal doubles -/

section Equality

variable {x y : Float}

/-- **A double is known by its parts.** -/
theorem eq_of_parts_eq (same : parts x = parts y) : x = y := by
  obtain ⟨⟨⟨bits⟩, valid⟩⟩ := x
  obtain ⟨⟨⟨otherBits⟩, otherValid⟩⟩ := y
  have bits_eq : bits = otherBits :=
    calc bits = pack Format.binary64 (unpack Format.binary64 bits) := (pack_unpack valid).symm
      _ = pack Format.binary64 (unpack Format.binary64 otherBits) :=
        congrArg (pack Format.binary64) same
      _ = otherBits := pack_unpack otherValid
  subst bits_eq
  rfl

/-- Finite doubles with one number that is not 0 have the same parts. -/
theorem eq_of_value_eq (finite : x.isFinite = true) (otherFinite : y.isFinite = true)
    (nonzero : value x ≠ 0) (same : value x = value y) : x = y := by
  refine eq_of_parts_eq ?_
  have alike := beq_iff_eq_eq.mp ((beq_iff finite otherFinite).mpr same)
  have otherNonzero : value y ≠ 0 := same ▸ nonzero
  rw [isFinite_eq] at finite otherFinite
  unfold value at nonzero otherNonzero
  generalize parts x = u at finite nonzero alike ⊢
  generalize parts y = v at otherFinite otherNonzero alike ⊢
  cases u with
  | notANumber => cases finite
  | infinity sign => cases finite
  | zero sign => exact absurd rfl nonzero
  | finite sign m d positive =>
    cases v with
    | notANumber => cases otherFinite
    | infinity sign => cases otherFinite
    | zero sign => exact absurd rfl otherNonzero
    | finite otherSign n e otherPositive =>
      have magnitudes : sign = otherSign ∧ (compare d e).then (compare m n) = .eq := by
        cases sign with
        | positive =>
          cases otherSign with
          | positive => exact ⟨rfl, Option.some_inj.mp alike⟩
          | negative => cases alike
        | negative =>
          cases otherSign with
          | positive => cases alike
          | negative => exact ⟨rfl, Ordering.swap_eq_eq.mp (Option.some_inj.mp alike)⟩
      obtain ⟨rfl, same⟩ := magnitudes
      obtain ⟨exponents, mantissas⟩ := Ordering.then_eq_eq.mp same
      obtain rfl := Int.compare_eq_eq.mp exponents
      obtain rfl := Nat.compare_eq_eq.mp mantissas
      rfl

/-- **A number is rounded to one double**, but for the sign of 0. -/
theorem Rounds.unique {v : ℝ} (rounds : Rounds x v) (otherRounds : Rounds y v)
    (nonzero : rounded v ≠ 0) : x = y := by
  rcases lt_or_ge |rounded v| (2 ^ (1024 : ℤ)) with range | overflow
  · obtain ⟨finite, value_eq⟩ := rounds.finite range
    obtain ⟨otherFinite, other_value_eq⟩ := otherRounds.finite range
    exact eq_of_value_eq finite otherFinite (by rwa [value_eq]) (by rw [value_eq, other_value_eq])
  · exact eq_of_parts_eq (by rw [rounds.infinite overflow, otherRounds.infinite overflow])

end Equality

/-! ### Results that are numbers -/

section Numbers

variable {x y : Float}

/-- A correctly rounded result is a number. -/
theorem Rounds.isNaN {v : ℝ} (rounds : Rounds x v) : x.isNaN = false := by
  rcases lt_or_ge |rounded v| (2 ^ (1024 : ℤ)) with range | overflow
  · exact isNaN_of_isFinite (rounds.finite range).1
  · rw [isNaN_eq, rounds.infinite overflow]
    rfl

/-- A number that is infinite. -/
theorem exists_infinity (number : x.isNaN = false) (infinite : ¬x.isFinite = true) :
    ∃ sign, parts x = .infinity sign := by
  rw [isNaN_eq] at number
  rw [isFinite_eq] at infinite
  cases parts_eq : parts x with
  | notANumber =>
    rw [parts_eq] at number
    cases number
  | infinity sign => exact ⟨sign, rfl⟩
  | zero sign => exact absurd (by rw [parts_eq]; rfl) infinite
  | finite sign m d positive => exact absurd (by rw [parts_eq]; rfl) infinite

/-- Only a product with 0 can fail to be a number. -/
theorem isNaN_mul (number : x.isNaN = false) (finite : y.isFinite = true) (nonzero : value y ≠ 0) :
    (x * y).isNaN = false := by
  by_cases otherFinite : x.isFinite = true
  · exact (rounds_mul otherFinite finite).isNaN
  · obtain ⟨sign, parts_eq⟩ := exists_infinity number otherFinite
    have product : parts (x * y) = unpack .binary64
      (pack .binary64 (UnpackedFloat.mul .binary64 (parts x) (parts y))) := rfl
    rw [isNaN_eq, product, parts_eq]
    rw [isFinite_eq] at finite
    unfold value at nonzero
    generalize parts y = v at finite nonzero
    cases v with
    | notANumber => cases finite
    | infinity otherSign => cases finite
    | zero otherSign => exact absurd rfl nonzero
    | finite otherSign n e otherPositive =>
      exact congrArg UnpackedFloat.isNaN (unpack_pack (.infinity (sign * otherSign)))

/-- Only a difference of infinities can fail to be a number. -/
theorem isNaN_sub (finite : x.isFinite = true) (number : y.isNaN = false) :
    (x - y).isNaN = false := by
  by_cases otherFinite : y.isFinite = true
  · exact (rounds_sub finite otherFinite).isNaN
  · obtain ⟨sign, parts_eq⟩ := exists_infinity number otherFinite
    have difference : parts (x - y) = unpack .binary64
      (pack .binary64 (UnpackedFloat.sub .binary64 (parts x) (parts y))) := rfl
    rw [isNaN_eq, difference, parts_eq]
    rw [isFinite_eq] at finite
    generalize parts x = u at finite
    have packed := congrArg UnpackedFloat.isNaN (unpack_pack (.infinity (-sign)))
    cases u with
    | notANumber => cases finite
    | infinity otherSign => cases finite
    | zero otherSign => exact packed
    | finite otherSign n e otherPositive => exact packed

theorem isNaN_sub_finite (number : x.isNaN = false) (finite : y.isFinite = true) :
    (x - y).isNaN = false := by
  by_cases otherFinite : x.isFinite = true
  · exact (rounds_sub otherFinite finite).isNaN
  · obtain ⟨sign, parts_eq⟩ := exists_infinity number otherFinite
    have difference : parts (x - y) = unpack .binary64
      (pack .binary64 (UnpackedFloat.sub .binary64 (parts x) (parts y))) := rfl
    rw [isNaN_eq, difference, parts_eq]
    rw [isFinite_eq] at finite
    generalize parts y = v at finite
    have packed := congrArg UnpackedFloat.isNaN (unpack_pack (.infinity sign))
    cases v with
    | notANumber => cases finite
    | infinity otherSign => cases finite
    | zero otherSign => exact packed
    | finite otherSign n e otherPositive => exact packed

end Numbers

end IncompleteBeta.Binary64
