/-
**The operations on doubles are correctly rounded.**

Each operation on finite doubles is the exact one on their numbers, followed by one rounding.

* **`rounds_add`**, **`rounds_sub`**, **`rounds_mul`**: sums, differences and products;
* **`rounds_div`**, **`rounds_sqrt`**: quotients by anything but 0, and square roots of numbers that
  are not negative.
-/

import IncompleteBeta.Proofs.Binary64.Rounding
import Mathlib.Analysis.Real.Sqrt

namespace IncompleteBeta.Binary64

open Float.Model (UnpackedFloat Format totalExponent)
open Float.Model.UnpackedFloat (Sign Accuracy decreaseExponent roundWithAccuracy accuracyOfFraction
  divCore sqrtCore)

/-! ### Sums and differences -/

section Sums

theorem cast_apply (sign : Sign) (mantissa : Nat) :
    ((sign.apply (mantissa : ℤ) : ℤ) : ℝ) = signed sign mantissa := by
  cases sign with
  | positive => exact Int.cast_natCast mantissa
  | negative =>
    show ((-(mantissa : ℤ) : ℤ) : ℝ) = -(mantissa : ℝ)
    rw [Int.cast_neg, Int.cast_natCast]

theorem signed_mul (sign : Sign) (v w : ℝ) : signed sign v * w = signed sign (v * w) := by
  cases sign with
  | positive => rfl
  | negative => exact neg_mul v w

theorem signed_neg (sign : Sign) (v : ℝ) : signed (-sign) v = -signed sign v := by
  cases sign with
  | positive => rfl
  | negative => exact (neg_neg v).symm

/-- A number over an exponent that is not above its own. -/
theorem signed_decreaseExponent (sign : Sign) (mantissa : Nat) {exponent target : ℤ}
    (le : target ≤ exponent) :
    ((sign.apply ((decreaseExponent mantissa exponent target).1 : ℤ) : ℤ) : ℝ) * 2 ^ target =
      signed sign (mantissa * 2 ^ exponent) := by
  rw [cast_apply, signed_mul, decreaseExponent_eq]
  dsimp only
  rw [← mul_two_pow_mul_zpow mantissa (exponent - target).toNat exponent,
    show exponent - ((exponent - target).toNat : ℤ) = target by omega]

/-- **A signed mantissa is rounded with its sign.** -/
theorem rounds_normalize (mantissa exponent : ℤ) (zeroSign : Sign) :
    Rounds (.ofModel (.pack (UnpackedFloat.normalize Format.binary64 mantissa exponent zeroSign)))
      (mantissa * 2 ^ exponent) := by
  unfold UnpackedFloat.normalize
  rcases lt_trichotomy mantissa 0 with negative | zero | positive
  · rw [Int.compare_eq_lt.mpr negative]
    have number : (mantissa : ℝ) * 2 ^ exponent =
        signed .negative (((-mantissa).toNat : ℝ) * 2 ^ exponent) := by
      have cast : (((-mantissa).toNat : ℤ) : ℝ) = -mantissa := by
        rw [Int.toNat_of_nonneg (by omega), Int.cast_neg]
      rw [Int.cast_natCast] at cast
      show _ = -(_ * _)
      rw [cast]
      ring
    rw [number]
    exact rounds_pack (by positivity) (nearestMagnitude_round .negative (by omega) exponent)
  · rw [Int.compare_eq_eq.mpr zero, zero, Int.cast_zero, zero_mul]
    exact rounds_pack_canonical (.zero zeroSign) rfl rounded_zero.symm
  · rw [Int.compare_eq_gt.mpr positive]
    have cast : ((mantissa.toNat : ℤ) : ℝ) = mantissa := by
      rw [Int.toNat_of_nonneg positive.le]
    rw [Int.cast_natCast] at cast
    rw [← cast]
    exact rounds_pack (by positivity) (nearestMagnitude_round .positive (by omega) exponent)

/-- A number in the form of doubles needs no rounding. -/
theorem rounded_realOf {u : UnpackedFloat} (canonical : Canonical u) :
    rounded (realOf u) = realOf u := by
  cases canonical with
  | notANumber => exact rounded_zero
  | infinity sign => exact rounded_zero
  | zero sign => exact rounded_zero
  | finite sign mantissa exponent positive digits full least most =>
    show rounded (signed sign _) = signed sign _
    rw [rounded_signed, rounded_of_onGrid]
    exact ⟨mantissa, exponent, by rw [Int.cast_natCast],
      by rw [Nat.abs_cast]; exact_mod_cast digits.le, least⟩

theorem rounds_canonical {u : UnpackedFloat} (canonical : Canonical u)
    (finite : u.isFinite = true) : Rounds (.ofModel (.pack u)) (realOf u) :=
  rounds_pack_canonical canonical finite (rounded_realOf canonical).symm

theorem rounds_add_unpacked {u v : UnpackedFloat} (canonical : Canonical u)
    (otherCanonical : Canonical v) (finite : u.isFinite = true) (otherFinite : v.isFinite = true) :
    Rounds (.ofModel (.pack (UnpackedFloat.add Format.binary64 u v))) (realOf u + realOf v) := by
  cases u with
  | notANumber => cases finite
  | infinity sign => cases finite
  | zero sign =>
    have none : realOf (.zero sign) = 0 := rfl
    rw [none, zero_add]
    cases v with
    | notANumber => cases otherFinite
    | infinity otherSign => cases otherFinite
    | zero otherSign =>
      show Rounds (.ofModel (.pack (if _ then _ else _))) 0
      split
      · exact rounds_canonical (.zero _) rfl
      · exact rounds_canonical (.zero _) rfl
    | finite otherSign n e otherPositive => exact rounds_canonical otherCanonical otherFinite
  | finite sign m d positive =>
    cases v with
    | notANumber => cases otherFinite
    | infinity otherSign => cases otherFinite
    | zero otherSign =>
      have none : realOf (.zero otherSign) = 0 := rfl
      rw [none, add_zero]
      exact rounds_canonical canonical finite
    | finite otherSign n e otherPositive =>
      have number := rounds_normalize (sign.apply (decreaseExponent m d (min d e)).1 +
        otherSign.apply (decreaseExponent n e (min d e)).1) (min d e) .positive
      rw [Int.cast_add, add_mul, signed_decreaseExponent sign m (min_le_left d e),
        signed_decreaseExponent otherSign n (min_le_right d e)] at number
      exact number

theorem rounds_sub_unpacked {u v : UnpackedFloat} (canonical : Canonical u)
    (otherCanonical : Canonical v) (finite : u.isFinite = true) (otherFinite : v.isFinite = true) :
    Rounds (.ofModel (.pack (UnpackedFloat.sub Format.binary64 u v))) (realOf u - realOf v) := by
  cases u with
  | notANumber => cases finite
  | infinity sign => cases finite
  | zero sign =>
    have none : realOf (.zero sign) = 0 := rfl
    rw [none, zero_sub]
    cases otherCanonical with
    | notANumber => cases otherFinite
    | infinity otherSign => cases otherFinite
    | zero otherSign =>
      have vanishes : realOf (.zero otherSign) = 0 := rfl
      rw [vanishes, neg_zero]
      show Rounds (.ofModel (.pack (if _ then _ else _))) 0
      split
      · exact rounds_canonical (.zero _) rfl
      · exact rounds_canonical (.zero _) rfl
    | finite otherSign n e otherPositive digits full least most =>
      have number :=
        rounds_canonical (.finite (-otherSign) n e otherPositive digits full least most) rfl
      rw [show realOf (.finite (-otherSign) n e otherPositive) =
        -realOf (.finite otherSign n e otherPositive)
        from signed_neg otherSign _] at number
      exact number
  | finite sign m d positive =>
    cases v with
    | notANumber => cases otherFinite
    | infinity otherSign => cases otherFinite
    | zero otherSign =>
      have none : realOf (.zero otherSign) = 0 := rfl
      rw [none, sub_zero]
      exact rounds_canonical canonical finite
    | finite otherSign n e otherPositive =>
      have number := rounds_normalize (sign.apply (decreaseExponent m d (min d e)).1 -
        otherSign.apply (decreaseExponent n e (min d e)).1) (min d e) .positive
      rw [Int.cast_sub, sub_mul, signed_decreaseExponent sign m (min_le_left d e),
        signed_decreaseExponent otherSign n (min_le_right d e)] at number
      exact number

variable {x y : Float} (finite : x.isFinite = true) (otherFinite : y.isFinite = true)
include finite otherFinite

/-- **Sums are correctly rounded.** -/
theorem rounds_add : Rounds (x + y) (value x + value y) :=
  rounds_add_unpacked (canonical_parts x) (canonical_parts y) finite otherFinite

/-- **Differences are correctly rounded.** -/
theorem rounds_sub : Rounds (x - y) (value x - value y) :=
  rounds_sub_unpacked (canonical_parts x) (canonical_parts y) finite otherFinite

end Sums

/-! ### Products and quotients -/

section Products

theorem signed_mul_signed (sign otherSign : Sign) (v w : ℝ) :
    signed (sign * otherSign) (v * w) = signed sign v * signed otherSign w := by
  cases sign with
  | positive =>
    cases otherSign with
    | positive => rfl
    | negative => exact (mul_neg v w).symm
  | negative =>
    cases otherSign with
    | positive => exact (neg_mul v w).symm
    | negative => exact (neg_mul_neg v w).symm

theorem signed_div_signed (sign otherSign : Sign) (v w : ℝ) :
    signed (sign / otherSign) (v / w) = signed sign v / signed otherSign w := by
  cases sign with
  | positive =>
    cases otherSign with
    | positive => rfl
    | negative => exact (div_neg v).symm
  | negative =>
    cases otherSign with
    | positive => exact (neg_div w v).symm
    | negative => exact (neg_div_neg_eq v w).symm

theorem rounds_mul_unpacked {u v : UnpackedFloat} (canonical : Canonical u)
    (otherCanonical : Canonical v) (finite : u.isFinite = true) (otherFinite : v.isFinite = true) :
    Rounds (.ofModel (.pack (UnpackedFloat.mul Format.binary64 u v))) (realOf u * realOf v) := by
  cases canonical with
  | notANumber => cases finite
  | infinity sign => cases finite
  | zero sign =>
    have none : realOf (.zero sign) = 0 := rfl
    rw [none, zero_mul]
    cases v with
    | notANumber => cases otherFinite
    | infinity otherSign => cases otherFinite
    | zero otherSign => exact rounds_canonical (.zero _) rfl
    | finite otherSign n e otherPositive => exact rounds_canonical (.zero _) rfl
  | finite sign m d positive digits full =>
    cases otherCanonical with
    | notANumber => cases otherFinite
    | infinity otherSign => cases otherFinite
    | zero otherSign =>
      have none : realOf (.zero otherSign) = 0 := rfl
      rw [none, mul_zero]
      exact rounds_canonical (.zero _) rfl
    | finite otherSign n e otherPositive otherDigits otherFull =>
      have product :
          realOf (.finite sign m d positive) * realOf (.finite otherSign n e otherPositive) =
          signed (sign * otherSign) (m * 2 ^ d * (n * 2 ^ e)) := (signed_mul_signed _ _ _ _).symm
      rw [product]
      refine rounds_pack (by positivity) (nearestMagnitude_roundWithAccuracy _ ?_ ?_)
      · rcases full with many | least
        · exact Or.inl (many.trans (Nat.le_mul_of_pos_right m otherPositive))
        · rcases otherFull with many | otherLeast
          · exact Or.inl (many.trans (Nat.le_mul_of_pos_left n positive))
          · exact Or.inr (by omega)
      · show _ = ((m * n : ℕ) : ℝ)
        rw [div_eq_iff (by positivity), zpow_add₀ (by norm_num)]
        push_cast
        ring

/-- A quotient of natural numbers, cut to an integer. -/
theorem truncates_quotient (m : Nat) {n : Nat} (positive : 0 < n) :
    Truncates (m / n) (accuracyOfFraction (m % n) n) ((m : ℝ) / n) := by
  have scale : (0 : ℝ) < n := by exact_mod_cast positive
  have whole : (m : ℝ) = n * ((m / n : ℕ) : ℝ) + ((m % n : ℕ) : ℝ) := by
    exact_mod_cast (Nat.div_add_mod m n).symm
  have quotient : (m : ℝ) / n = ((m / n : ℕ) : ℝ) + ((m % n : ℕ) : ℝ) / n := by
    rw [div_eq_iff scale.ne', add_mul, div_mul_cancel₀ _ scale.ne', mul_comm _ (n : ℝ)]
    exact whole
  unfold accuracyOfFraction
  rw [quotient]
  split
  next exact =>
    rw [exact, Nat.cast_zero, zero_div, add_zero]
    rfl
  next inexact =>
    have rest_pos : (0 : ℝ) < ((m % n : ℕ) : ℝ) := by exact_mod_cast Nat.pos_of_ne_zero inexact
    have rest_lt : ((m % n : ℕ) : ℝ) < n := by exact_mod_cast Nat.mod_lt m positive
    refine ⟨lt_add_of_pos_right _ (div_pos rest_pos scale), ?_, ?_⟩
    · rw [add_lt_add_iff_left, div_lt_one scale]
      exact rest_lt
    · rcases lt_trichotomy (2 * (m % n)) n with less | same | more
      · have half : 2 * ((m % n : ℕ) : ℝ) < n := by exact_mod_cast less
        rw [Nat.compare_eq_lt.mpr less]
        show _ + _ < _ + _
        rw [add_lt_add_iff_left, div_lt_div_iff₀ scale (by norm_num)]
        linarith
      · have half : 2 * ((m % n : ℕ) : ℝ) = n := by exact_mod_cast same
        rw [Nat.compare_eq_eq.mpr same]
        show _ + _ = _ + _
        rw [add_right_inj, div_eq_div_iff scale.ne' (by norm_num)]
        linarith
      · have half : (n : ℝ) < 2 * ((m % n : ℕ) : ℝ) := by exact_mod_cast more
        rw [Nat.compare_eq_gt.mpr more]
        show _ + _ < _ + _
        rw [add_lt_add_iff_left, div_lt_div_iff₀ (by norm_num) scale]
        linarith

/-- A quotient that is cut late enough has as many digits as are wanted. -/
theorem two_pow_le_quotient {m n count k : Nat} (positive : m ≠ 0) (otherPositive : 0 < n)
    (enough : k + 1 + n.log2 ≤ m.log2 + count) : 2 ^ k ≤ m * 2 ^ count / n := by
  rw [Nat.le_div_iff_mul_le otherPositive]
  calc 2 ^ k * n ≤ 2 ^ k * 2 ^ (n.log2 + 1) := Nat.mul_le_mul_left _ Nat.lt_log2_self.le
    _ = 2 ^ (k + 1 + n.log2) := by
        rw [← pow_add]
        congr 1
        omega
    _ ≤ 2 ^ (m.log2 + count) := Nat.pow_le_pow_right (by norm_num) enough
    _ = 2 ^ m.log2 * 2 ^ count := pow_add _ _ _
    _ ≤ m * 2 ^ count := Nat.mul_le_mul_right _ (Nat.log2_self_le positive)

theorem nearestMagnitude_div (sign : Sign) {m n : Nat} (positive : 0 < m) (otherPositive : 0 < n)
    (d e : ℤ) :
    NearestMagnitude sign (m * 2 ^ d / (n * 2 ^ e))
      (match divCore Format.binary64 m d n e with
        | (mantissa, exponent, accuracy) =>
          roundWithAccuracy Format.binary64 sign mantissa exponent accuracy) := by
  have target : Format.binary64.targetExponent (totalExponent m d - totalExponent n e) =
      max (m.log2 + d - (n.log2 + e) - 53) (-1074) := by
    have width : ((Format.binary64.mantissaBits : ℕ) : ℤ) = 53 := rfl
    have least : Format.binary64.minExponent = -1074 := rfl
    unfold Format.targetExponent totalExponent
    rw [width, least]
    omega
  unfold divCore
  rw [target]
  dsimp only
  generalize target_eq :
    min (d - e) (max (m.log2 + d - (n.log2 + e) - 53 : ℤ) (-1074)) = cut
  obtain ⟨count, count_eq⟩ : ∃ count : ℕ, d - e - cut = count :=
    Int.eq_ofNat_of_zero_le (by omega)
  rw [count_eq, Int.toNat_natCast, Nat.shiftLeft_eq]
  refine nearestMagnitude_roundWithAccuracy sign ?_ ?_
  · by_cases least : cut ≤ -1074
    · exact Or.inr least
    · exact Or.inl (two_pow_le_quotient positive.ne' otherPositive (by omega))
  · have scaled : (m * 2 ^ d / (n * 2 ^ e) : ℝ) / 2 ^ cut = ((m * 2 ^ count : ℕ) : ℝ) / n := by
      rw [show d = cut + e + count by omega, zpow_add₀ (by norm_num), zpow_add₀ (by norm_num),
        zpow_natCast]
      push_cast
      field_simp
    rw [scaled]
    exact truncates_quotient _ otherPositive

theorem rounds_div_unpacked {u v : UnpackedFloat} (finite : u.isFinite = true)
    (otherFinite : v.isFinite = true) (nonzero : realOf v ≠ 0) :
    Rounds (.ofModel (.pack (UnpackedFloat.div Format.binary64 u v))) (realOf u / realOf v) := by
  cases v with
  | notANumber => cases otherFinite
  | infinity otherSign => cases otherFinite
  | zero otherSign => exact absurd rfl nonzero
  | finite otherSign n e otherPositive =>
    cases u with
    | notANumber => cases finite
    | infinity sign => cases finite
    | zero sign =>
      have none : realOf (.zero sign) = 0 := rfl
      rw [none, zero_div]
      exact rounds_canonical (.zero _) rfl
    | finite sign m d positive =>
      have quotient :
          realOf (.finite sign m d positive) / realOf (.finite otherSign n e otherPositive) =
          signed (sign / otherSign) (m * 2 ^ d / (n * 2 ^ e)) := (signed_div_signed _ _ _ _).symm
      rw [quotient]
      exact rounds_pack (by positivity) (nearestMagnitude_div _ positive otherPositive d e)

variable {x y : Float} (finite : x.isFinite = true) (otherFinite : y.isFinite = true)
include finite otherFinite

/-- **Products are correctly rounded.** -/
theorem rounds_mul : Rounds (x * y) (value x * value y) :=
  rounds_mul_unpacked (canonical_parts x) (canonical_parts y) finite otherFinite

/-- **Quotients are correctly rounded.** -/
theorem rounds_div (nonzero : value y ≠ 0) : Rounds (x / y) (value x / value y) :=
  rounds_div_unpacked finite otherFinite nonzero

end Products

/-! ### Square roots -/

section Roots

/-- A square root of a natural number, cut to an integer. -/
theorem truncates_sqrt (n : Nat) :
    Truncates n.sqrt
      (if n - n.sqrt * n.sqrt = 0 then .exact
        else .inexact (if n - n.sqrt * n.sqrt ≤ n.sqrt then .lt else .gt)) (√n) := by
  have below : n.sqrt * n.sqrt ≤ n := Nat.sqrt_le n
  have above : n < (n.sqrt + 1) * (n.sqrt + 1) := Nat.lt_succ_sqrt n
  generalize n.sqrt = root at below above ⊢
  have nonneg : (0 : ℝ) ≤ root := Nat.cast_nonneg root
  split
  next exact =>
    show √(n : ℝ) = root
    rw [show n = root * root by omega, Nat.cast_mul, Real.sqrt_mul_self nonneg]
  next inexact =>
    have more : root * root < n := by omega
    refine ⟨?_, ?_, ?_⟩
    · rw [Real.lt_sqrt nonneg, sq]
      exact_mod_cast more
    · rw [Real.sqrt_lt' (by linarith), sq]
      exact_mod_cast above
    · split
      next near =>
        have low : (n : ℝ) ≤ root * root + root := by
          have : n ≤ root * root + root := by omega
          exact_mod_cast this
        show √(n : ℝ) < root + 1 / 2
        rw [Real.sqrt_lt' (by linarith)]
        nlinarith
      next far =>
        have high : (root : ℝ) * root + root + 1 ≤ n := by
          have : root * root + root + 1 ≤ n := by omega
          exact_mod_cast this
        show (root : ℝ) + 1 / 2 < √(n : ℝ)
        rw [Real.lt_sqrt (by linarith)]
        nlinarith

theorem nearestMagnitude_sqrt (sign : Sign) {m : Nat} (positive : 0 < m) (e : ℤ) :
    NearestMagnitude sign (√(m * 2 ^ e))
      (match sqrtCore Format.binary64 m e with
        | (mantissa, exponent, accuracy) =>
          roundWithAccuracy Format.binary64 sign mantissa exponent accuracy) := by
  have target : Format.binary64.targetExponent ((totalExponent m e + 1).ediv 2) =
      max ((m.log2 + 1 + e + 1 : ℤ).ediv 2 - 53) (-1074) := by
    have width : ((Format.binary64.mantissaBits : ℕ) : ℤ) = 53 := rfl
    have least : Format.binary64.minExponent = -1074 := rfl
    unfold Format.targetExponent totalExponent
    rw [width, least]
  have half : ∀ v : ℤ, v.ediv 2 = v / 2 := fun v => rfl
  unfold sqrtCore
  rw [target, half, half]
  dsimp only
  generalize cut_eq : min (e / 2) (max ((m.log2 + 1 + e + 1 : ℤ) / 2 - 53) (-1074)) = cut
  obtain ⟨count, count_eq⟩ : ∃ count : ℕ, e - 2 * cut = count :=
    Int.eq_ofNat_of_zero_le (by omega)
  rw [count_eq, Int.toNat_natCast, Nat.shiftLeft_eq]
  refine nearestMagnitude_roundWithAccuracy sign ?_ ?_
  · by_cases least : cut ≤ -1074
    · exact Or.inr least
    left
    rw [Nat.le_sqrt]
    calc 2 ^ 52 * 2 ^ 52 = 2 ^ 104 := by norm_num
      _ ≤ 2 ^ (m.log2 + count) := Nat.pow_le_pow_right (by norm_num) (by omega)
      _ = 2 ^ m.log2 * 2 ^ count := pow_add _ _ _
      _ ≤ m * 2 ^ count := Nat.mul_le_mul_right _ (Nat.log2_self_le positive.ne')
  · have scaled : √(m * 2 ^ e : ℝ) / 2 ^ cut = √((m * 2 ^ count : ℕ) : ℝ) := by
      have square : (m * 2 ^ e : ℝ) = ((m * 2 ^ count : ℕ) : ℝ) * (2 ^ cut) ^ 2 := by
        rw [show e = count + cut + cut by omega, zpow_add₀ (by norm_num), zpow_add₀ (by norm_num),
          zpow_natCast]
        push_cast
        ring
      rw [square, Real.sqrt_mul (Nat.cast_nonneg _), Real.sqrt_sq (by positivity),
        mul_div_cancel_right₀ _ (by positivity)]
    rw [scaled]
    exact truncates_sqrt _

theorem rounds_sqrt_unpacked {u : UnpackedFloat} (finite : u.isFinite = true)
    (nonneg : 0 ≤ realOf u) :
    Rounds (.ofModel (.pack (UnpackedFloat.sqrt Format.binary64 u))) (√(realOf u)) := by
  cases u with
  | notANumber => cases finite
  | infinity sign => cases finite
  | zero sign =>
    have none : realOf (.zero sign) = 0 := rfl
    rw [none, Real.sqrt_zero]
    exact rounds_canonical (.zero _) rfl
  | finite sign m e positive =>
    have size : (0 : ℝ) < m * 2 ^ e := by positivity
    cases sign with
    | positive =>
      exact rounds_pack (Real.sqrt_nonneg _) (nearestMagnitude_sqrt .positive positive e)
    | negative => exact absurd nonneg (not_le.mpr (neg_lt_zero.mpr size))

/-- **Square roots are correctly rounded.** -/
theorem rounds_sqrt {x : Float} (finite : x.isFinite = true) (nonneg : 0 ≤ value x) :
    Rounds x.sqrt (√(value x)) :=
  rounds_sqrt_unpacked finite nonneg

end Roots

end IncompleteBeta.Binary64
