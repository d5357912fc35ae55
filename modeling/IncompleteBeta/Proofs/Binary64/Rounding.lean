/-
**Rounding of an exact result to a double.**

An operation on doubles finds the first digits of its exact result and how the rest compares with
half a unit; the digits are then shifted to the grid, rounded and packed.

* `Truncates`, `Represents`: what is known of a real number from its first digits;
* `Represents.shiftRight`, `Represents.roundedMantissa`: shifts forget nothing that rounding needs;
* `NearestMagnitude`: an unpacked double with a sign and the nearest magnitude;
* **`nearestMagnitude_roundWithAccuracy`**, `nearestMagnitude_round`: the two ways of rounding
  give it;
* `Rounds`: a double is a real number rounded, or infinite where that is too large.
-/

import IncompleteBeta.Proofs.Binary64.Value
import Mathlib.Data.Nat.Log

namespace IncompleteBeta.Binary64

open Float.Model (UnpackedFloat Format totalExponent)
open Float.Model.UnpackedFloat (Sign Accuracy ExtendedMantissa pack unpack shiftToExponent
  shiftToTargetExponent roundWithAccuracy decreaseExponent)

/-! ### First digits -/

section Digits

variable {em : ExtendedMantissa} {v : ℝ}

attribute [local instance] atLeastTwo_two in
/-- A natural number is what is left of a real number without its fraction, and the accuracy says
how the fraction compares with one half. -/
def Truncates (mantissa : Nat) : Accuracy → ℝ → Prop
  | .exact, v => v = mantissa
  | .inexact ordering, v => mantissa < v ∧ v < mantissa + 1 ∧ ordering.Compares v (mantissa + 1 / 2)

attribute [local instance] atLeastTwo_two in
/-- A mantissa with a round bit of one half, and a sticky bit for a smaller rest. -/
def Represents (em : ExtendedMantissa) (v : ℝ) : Prop :=
  ∃ rest : ℝ, 0 ≤ rest ∧ rest < 1 / 2 ∧ (em.stickyBit = true ↔ rest ≠ 0) ∧
    v = em.mantissa + (if em.roundBit = true then 1 / 2 else 0) + rest

/-- A real number is at least its first digits, and less than the next ones. -/
theorem Truncates.bounds {mantissa : Nat} {accuracy : Accuracy}
    (truncates : Truncates mantissa accuracy v) : (mantissa : ℝ) ≤ v ∧ v < mantissa + 1 := by
  cases accuracy with
  | exact =>
    rw [show v = mantissa from truncates]
    exact ⟨le_rfl, lt_add_one _⟩
  | inexact ordering => exact ⟨truncates.1.le, truncates.2.1⟩

theorem represents_ofMantissaAndAccuracy {mantissa : Nat} {accuracy : Accuracy}
    (truncates : Truncates mantissa accuracy v) :
    Represents (ExtendedMantissa.ofMantissaAndAccuracy mantissa accuracy) v := by
  cases accuracy with
  | exact =>
    refine ⟨0, le_rfl, by norm_num, by simp [ExtendedMantissa.ofMantissaAndAccuracy], ?_⟩
    rw [show v = mantissa from truncates]
    simp [ExtendedMantissa.ofMantissaAndAccuracy]
  | inexact ordering =>
    obtain ⟨above, below, compares⟩ := truncates
    cases ordering with
    | lt =>
      have half : v < mantissa + 1 / 2 := compares
      refine ⟨v - mantissa, by linarith, by linarith, ?_, ?_⟩
      · exact ⟨fun _ => by linarith, fun _ => rfl⟩
      · simp [ExtendedMantissa.ofMantissaAndAccuracy]
    | eq =>
      have half : v = mantissa + 1 / 2 := compares
      refine ⟨0, le_rfl, by norm_num, by simp [ExtendedMantissa.ofMantissaAndAccuracy], ?_⟩
      rw [half]
      simp [ExtendedMantissa.ofMantissaAndAccuracy]
    | gt =>
      have half : (mantissa : ℝ) + 1 / 2 < v := compares
      refine ⟨v - mantissa - 1 / 2, by linarith, by linarith, ?_, ?_⟩
      · exact ⟨fun _ => by linarith, fun _ => rfl⟩
      · simp [ExtendedMantissa.ofMantissaAndAccuracy]

/-- A shift by one digit: the round bit joins the sticky bit. -/
theorem Represents.shiftRightOne (represents : Represents em v) :
    Represents em.shiftRightOne (v / 2) := by
  obtain ⟨mantissa, roundBit, stickyBit⟩ := em
  obtain ⟨rest, nonneg, small, sticky, rfl⟩ := represents
  have digits : (mantissa : ℝ) = 2 * ((mantissa / 2 : ℕ) : ℝ) + ((mantissa % 2 : ℕ) : ℝ) := by
    exact_mod_cast (Nat.div_add_mod mantissa 2).symm
  refine ⟨(if roundBit = true then 1 / 4 else 0) + rest / 2, ?_, ?_, ?_, ?_⟩
  · split <;> linarith
  · split <;> linarith
  · show (roundBit || stickyBit) = true ↔ _
    cases roundBit with
    | false =>
      rw [Bool.false_or, sticky]
      simp
    | true =>
      rw [Bool.true_or, if_pos rfl]
      exact ⟨fun _ => by linarith, fun _ => rfl⟩
  · show _ = ((mantissa / 2 : ℕ) : ℝ) + (if (mantissa % 2 != 0) = true then 1 / 2 else 0) + _
    have unit : (if (mantissa % 2 != 0) = true then (1 : ℝ) / 2 else 0) =
        ((mantissa % 2 : ℕ) : ℝ) / 2 := by
      rcases Nat.mod_two_eq_zero_or_one mantissa with even | odd
      · simp [even]
      · simp [odd]
    rw [unit]
    dsimp only
    split <;> linarith

/-- **Shifts forget nothing that rounding needs.** -/
theorem Represents.shiftRight (represents : Represents em v) (count : Nat) :
    Represents (em >>> count) (v / 2 ^ count) := by
  show Represents (count.repeat ExtendedMantissa.shiftRightOne em) _
  induction count with
  | zero =>
    rw [pow_zero, div_one]
    exact represents
  | succ count ih =>
    rw [pow_succ, ← div_div]
    exact ih.shiftRightOne

/-- **The two bits decide how to round.** -/
theorem Represents.roundedMantissa (represents : Represents em v) :
    roundEven v = (em.roundedMantissa : ℤ) := by
  obtain ⟨mantissa, roundBit, stickyBit⟩ := em
  obtain ⟨rest, nonneg, small, sticky, rfl⟩ := represents
  refine roundEven_eq ?_
  cases roundBit with
  | false =>
    left
    have unrounded : (ExtendedMantissa.mk mantissa false stickyBit).roundedMantissa = mantissa := by
      cases stickyBit <;> rfl
    rw [unrounded, if_neg Bool.false_ne_true]
    push_cast
    rw [abs_lt]
    constructor <;> linarith
  | true =>
    rw [if_pos rfl]
    cases stickyBit with
    | true =>
      have positive : rest ≠ 0 := sticky.mp rfl
      have positive : 0 < rest := lt_of_le_of_ne nonneg positive.symm
      left
      show |_ - (((mantissa + 1 : ℕ) : ℤ) : ℝ)| < _
      push_cast
      rw [abs_lt]
      constructor <;> linarith
    | false =>
      have zero : rest = 0 := by
        by_contra nonzero
        exact Bool.false_ne_true (sticky.mpr nonzero)
      right
      show |_ - (((mantissa + mantissa % 2 : ℕ) : ℤ) : ℝ)| = _ ∧
        Even ((mantissa + mantissa % 2 : ℕ) : ℤ)
      rw [zero]
      rcases Nat.mod_two_eq_zero_or_one mantissa with even | odd
      · rw [even]
        refine ⟨?_, ?_⟩
        · push_cast
          rw [abs_of_nonneg (by linarith)]
          ring
        · exact_mod_cast Nat.even_iff.mpr even
      · rw [odd]
        refine ⟨?_, ?_⟩
        · push_cast
          rw [abs_of_nonpos (by linarith)]
          ring
        · exact_mod_cast (Nat.odd_iff.mpr odd).add_one

end Digits

/-! ### Shifts to the grid -/

section Shifts

variable {mantissa : Nat} {exponent target : ℤ} {accuracy : Accuracy} {v : ℝ}

/-- The exponent that 53 digits of a number have. -/
theorem targetExponent_eq (mantissa : Nat) (exponent : ℤ) :
    Format.binary64.targetExponent (totalExponent mantissa exponent) =
      max (mantissa.log2 + exponent - 52) (-1074) := by
  have width : ((Format.binary64.mantissaBits : ℕ) : ℤ) = 53 := rfl
  have least : Format.binary64.minExponent = -1074 := rfl
  unfold Format.targetExponent totalExponent
  rw [width, least]
  omega

theorem targetExponent_ge (mantissa : Nat) (exponent : ℤ) :
    -1074 ≤ Format.binary64.targetExponent (totalExponent mantissa exponent) := by
  rw [targetExponent_eq]
  exact le_max_right _ _

/-- A shift to an exponent that is not above the target changes nothing. -/
theorem shiftToTargetExponent_of_le
    (le : Format.binary64.targetExponent (totalExponent mantissa exponent) ≤ exponent) :
    shiftToTargetExponent Format.binary64 mantissa exponent accuracy =
      (ExtendedMantissa.ofMantissaAndAccuracy mantissa accuracy, exponent) := by
  unfold shiftToTargetExponent shiftToExponent
  dsimp only
  rw [Int.toNat_eq_zero.mpr (sub_nonpos.mpr le), Nat.cast_zero, add_zero]
  rfl

/-- A shift up to the target keeps what is represented. -/
theorem represents_shiftToTargetExponent
    (le : exponent ≤ Format.binary64.targetExponent (totalExponent mantissa exponent))
    (truncates : Truncates mantissa accuracy (v / 2 ^ exponent)) :
    ∃ em, shiftToTargetExponent Format.binary64 mantissa exponent accuracy =
        (em, Format.binary64.targetExponent (totalExponent mantissa exponent)) ∧
      Represents em
        (v / 2 ^ Format.binary64.targetExponent (totalExponent mantissa exponent)) := by
  unfold shiftToTargetExponent shiftToExponent
  dsimp only
  generalize Format.binary64.targetExponent (totalExponent mantissa exponent) = target at le ⊢
  obtain ⟨count, same⟩ := Int.eq_ofNat_of_zero_le (sub_nonneg.mpr le)
  refine ⟨_, Prod.ext rfl ?_, ?_⟩
  · dsimp only
    omega
  · have shifted := (represents_ofMantissaAndAccuracy truncates).shiftRight count
    have split : (2 : ℝ) ^ target = 2 ^ exponent * 2 ^ count := by
      rw [show target = exponent + count by omega, zpow_add₀ (by norm_num), zpow_natCast]
    rw [same, split, ← div_div]
    exact shifted

/-! ### One rounding -/

theorem nonneg_of_truncates (truncates : Truncates mantissa accuracy (v / 2 ^ exponent)) :
    0 ≤ v := by
  have scaled : (0 : ℝ) ≤ v / 2 ^ exponent :=
    (Nat.cast_nonneg mantissa).trans truncates.bounds.1
  rw [le_div_iff₀ (by positivity), zero_mul] at scaled
  exact scaled

/-- How large a number with these first digits is. -/
theorem bounds_of_truncates (positive : mantissa ≠ 0)
    (truncates : Truncates mantissa accuracy (v / 2 ^ exponent)) :
    2 ^ (mantissa.log2 + exponent : ℤ) ≤ |v| ∧ |v| < 2 ^ (mantissa.log2 + exponent + 1 : ℤ) := by
  have scale : (0 : ℝ) < 2 ^ exponent := by positivity
  obtain ⟨above, below⟩ := truncates.bounds
  have above : (mantissa : ℝ) * 2 ^ exponent ≤ v := (le_div_iff₀ scale).mp above
  have below : v < (mantissa + 1) * 2 ^ exponent := (div_lt_iff₀ scale).mp below
  have first : (2 : ℝ) ^ mantissa.log2 ≤ mantissa := by
    exact_mod_cast Nat.log2_self_le positive
  have last : (mantissa : ℝ) + 1 ≤ 2 ^ (mantissa.log2 + 1) := by
    exact_mod_cast Nat.lt_log2_self
  rw [abs_of_nonneg (nonneg_of_truncates truncates)]
  constructor
  · rw [zpow_add₀ (by norm_num), zpow_natCast]
    exact (mul_le_mul_of_nonneg_right first scale.le).trans above
  · rw [add_right_comm, zpow_add₀ (by norm_num), ← Nat.cast_succ, zpow_natCast]
    exact below.trans_le (mul_le_mul_of_nonneg_right last scale.le)

/-- **The target is the spacing of the grid**, given enough digits to start with. -/
theorem targetExponent_eq_quantum (enough : 52 ≤ mantissa.log2 ∨ exponent ≤ -1074)
    (truncates : Truncates mantissa accuracy (v / 2 ^ exponent)) (nonzero : v ≠ 0) :
    Format.binary64.targetExponent (totalExponent mantissa exponent) = quantum v := by
  rw [targetExponent_eq]
  rcases Nat.eq_zero_or_pos mantissa with rfl | positive
  · -- Not even a first digit: the number is below the least spacing.
    have scale : (0 : ℝ) < 2 ^ exponent := by positivity
    have least : exponent ≤ -1074 := enough.resolve_left (by norm_num)
    have below := truncates.bounds.2
    rw [Nat.cast_zero, zero_add, div_lt_one scale] at below
    rw [quantum_eq_least nonzero]
    · rw [Nat.log2_zero, Nat.cast_zero]
      omega
    · rw [abs_of_nonneg (nonneg_of_truncates truncates)]
      exact below.trans_le (zpow_le_zpow_right₀ (by norm_num) (by omega))
  · obtain ⟨above, below⟩ := bounds_of_truncates positive.ne' truncates
    exact (quantum_of_bounds above below).symm

/-- The digits that one rounding leaves. -/
structure Rounding (v : ℝ) (mantissa : Nat) (target : ℤ) : Prop where
  digits : mantissa ≤ 2 ^ 53
  full : 2 ^ 52 ≤ mantissa ∨ target = -1074
  nearest : rounded v = mantissa * 2 ^ target

/-- The nearest multiple of the spacing is a rounding. -/
theorem rounding_of_roundEven {mantissa : Nat} (nonneg : 0 ≤ v) (nonzero : v ≠ 0)
    (target_eq : target = quantum v) (mantissa_eq : roundEven (v / 2 ^ target) = mantissa) :
    Rounding v mantissa target := by
  have scale : (0 : ℝ) < 2 ^ target := by positivity
  have digits_le : v / 2 ^ target ≤ ((2 ^ 53 : ℤ) : ℝ) := by
    have below := (abs_lt_of_quantum v).le
    rw [← target_eq, abs_of_nonneg nonneg, add_comm, zpow_add₀ (by norm_num)] at below
    rw [div_le_iff₀ scale]
    exact_mod_cast below
  refine ⟨?_, ?_, ?_⟩
  · have := roundEven_mono digits_le
    rw [roundEven_intCast, mantissa_eq] at this
    exact_mod_cast this
  · rcases (quantum_ge v).lt_or_eq with normal | least
    · left
      have above := le_abs_of_quantum nonzero normal
      rw [← target_eq, abs_of_nonneg nonneg, add_comm, zpow_add₀ (by norm_num)] at above
      have le_digits : ((2 ^ 52 : ℤ) : ℝ) ≤ v / 2 ^ target := by
        rw [le_div_iff₀ scale]
        exact_mod_cast above
      have := roundEven_mono le_digits
      rw [roundEven_intCast, mantissa_eq] at this
      exact_mod_cast this
    · right
      rw [target_eq, ← least]
  · unfold rounded
    rw [← target_eq, mantissa_eq, Int.cast_natCast]

/-- **The first shift rounds**, given enough digits to start with. -/
theorem exists_rounding (enough : 52 ≤ mantissa.log2 ∨ exponent ≤ -1074)
    (truncates : Truncates mantissa accuracy (v / 2 ^ exponent)) :
    ∃ em target, shiftToTargetExponent Format.binary64 mantissa exponent accuracy = (em, target) ∧
      -1074 ≤ target ∧ Rounding v em.roundedMantissa target := by
  have le : exponent ≤ Format.binary64.targetExponent (totalExponent mantissa exponent) := by
    rw [targetExponent_eq]
    omega
  obtain ⟨em, shifted, represents⟩ := represents_shiftToTargetExponent le truncates
  refine ⟨em, _, shifted, targetExponent_ge _ _, ?_⟩
  rcases eq_or_ne v 0 with rfl | nonzero
  · have zero : em.roundedMantissa = 0 := by
      have := represents.roundedMantissa
      rw [zero_div, roundEven_zero] at this
      exact_mod_cast this.symm
    have none : mantissa = 0 := by
      have := truncates.bounds.1
      rw [zero_div] at this
      exact_mod_cast this.antisymm (Nat.cast_nonneg mantissa)
    refine ⟨by omega, Or.inr ?_, ?_⟩
    · rw [targetExponent_eq, none, Nat.log2_zero, Nat.cast_zero]
      have := enough.resolve_left (by rw [none]; norm_num)
      omega
    · rw [zero, rounded_zero, Nat.cast_zero, zero_mul]
  · exact rounding_of_roundEven (nonneg_of_truncates truncates) nonzero
      (targetExponent_eq_quantum enough truncates nonzero) represents.roundedMantissa

/-- The second shift has something to do only where the first has carried. -/
theorem shift_of_digits (digits : mantissa < 2 ^ 53) (least : -1074 ≤ exponent) :
    shiftToTargetExponent Format.binary64 mantissa exponent .exact =
      (⟨mantissa, false, false⟩, exponent) := by
  refine shiftToTargetExponent_of_le ?_
  have short : mantissa.log2 ≤ 52 := by
    rcases Nat.eq_zero_or_pos mantissa with rfl | positive
    · norm_num
    · exact Nat.le_of_lt_succ ((Nat.log2_lt positive.ne').mpr digits)
  rw [targetExponent_eq]
  omega

theorem shift_of_carry (least : -1074 ≤ exponent) :
    shiftToTargetExponent Format.binary64 (2 ^ 53) exponent .exact =
      (⟨2 ^ 52, false, false⟩, exponent + 1) := by
  have target : Format.binary64.targetExponent (totalExponent (2 ^ 53) exponent) =
      exponent + 1 := by
    rw [targetExponent_eq, Nat.log2_two_pow]
    omega
  unfold shiftToTargetExponent shiftToExponent
  dsimp only
  rw [target, add_sub_cancel_left]
  rfl

/-- **An unpacked double with a sign and the magnitude nearest a real number.** -/
inductive NearestMagnitude (sign : Sign) (v : ℝ) : UnpackedFloat → Prop where
  | zero (vanishes : rounded v = 0) : NearestMagnitude sign v (.zero sign)
  | finite (mantissa : Nat) (exponent : ℤ) (positive : 0 < mantissa) (digits : mantissa < 2 ^ 53)
      (full : 2 ^ 52 ≤ mantissa ∨ exponent = -1074) (least : -1074 ≤ exponent)
      (nearest : rounded v = mantissa * 2 ^ exponent) :
      NearestMagnitude sign v (.finite sign mantissa exponent positive)

/-- **Rounding gives the nearest magnitude**, given enough digits to start with. -/
theorem nearestMagnitude_roundWithAccuracy (sign : Sign)
    (enough : 2 ^ 52 ≤ mantissa ∨ exponent ≤ -1074)
    (truncates : Truncates mantissa accuracy (v / 2 ^ exponent)) :
    NearestMagnitude sign v
      (roundWithAccuracy Format.binary64 sign mantissa exponent accuracy) := by
  have enough : 52 ≤ mantissa.log2 ∨ exponent ≤ -1074 :=
    enough.imp_left fun many => (Nat.le_log2 (by omega)).mpr many
  obtain ⟨em, target, shifted, least, digits, full, nearest⟩ := exists_rounding enough truncates
  unfold roundWithAccuracy
  rw [shifted]
  dsimp only
  rcases digits.lt_or_eq with inside | carry
  · rw [shift_of_digits inside least]
    dsimp only
    split
    next zero =>
      rw [zero, Nat.cast_zero, zero_mul] at nearest
      exact .zero nearest
    next nonzero => exact .finite _ _ _ inside full least nearest
  · rw [carry, shift_of_carry least]
    dsimp only
    rw [dif_neg (by norm_num)]
    refine .finite _ _ _ (by norm_num) (Or.inl le_rfl) (by omega) ?_
    rw [nearest, carry, zpow_add₀ (by norm_num)]
    push_cast
    ring

/-! ### Rounding an exact number -/

theorem decreaseExponent_eq (mantissa : Nat) (exponent target : ℤ) :
    decreaseExponent mantissa exponent target =
      (mantissa * 2 ^ (exponent - target).toNat, exponent - (exponent - target).toNat) := by
  unfold decreaseExponent
  dsimp only
  rw [Nat.shiftLeft_eq]

/-- More digits over a smaller exponent are the same number. -/
theorem mul_two_pow_mul_zpow (mantissa count : Nat) (exponent : ℤ) :
    ((mantissa * 2 ^ count : ℕ) : ℝ) * 2 ^ (exponent - count : ℤ) = mantissa * 2 ^ exponent := by
  rw [zpow_sub₀ (by norm_num), zpow_natCast, Nat.cast_mul, Nat.cast_pow, Nat.cast_ofNat]
  field_simp

/-- **Rounding an exact number gives the nearest magnitude.** -/
theorem nearestMagnitude_round (sign : Sign) (positive : mantissa ≠ 0) (exponent : ℤ) :
    NearestMagnitude sign (mantissa * 2 ^ exponent)
      (UnpackedFloat.round Format.binary64 sign mantissa exponent) := by
  unfold UnpackedFloat.round
  rw [targetExponent_eq]
  dsimp only
  rw [decreaseExponent_eq]
  dsimp only
  generalize count_eq :
    (exponent - max (mantissa.log2 + exponent - 52 : ℤ) (-1074)).toNat = count
  refine nearestMagnitude_roundWithAccuracy sign ?_ ?_
  · by_cases least : exponent - count ≤ -1074
    · exact Or.inr least
    left
    calc 2 ^ 52 ≤ 2 ^ (mantissa.log2 + count) := Nat.pow_le_pow_right (by norm_num) (by omega)
      _ = 2 ^ mantissa.log2 * 2 ^ count := pow_add _ _ _
      _ ≤ mantissa * 2 ^ count := Nat.mul_le_mul_right _ (Nat.log2_self_le positive)
  · show _ = _
    rw [div_eq_iff (by positivity), mul_two_pow_mul_zpow]

end Shifts

/-! ### Results -/

section Results

variable {sign : Sign} {v : ℝ} {u : UnpackedFloat}

theorem rounded_signed (sign : Sign) (v : ℝ) :
    rounded (signed sign v) = signed sign (rounded v) := by
  cases sign with
  | positive => rfl
  | negative => exact rounded_neg v

theorem abs_signed (sign : Sign) (v : ℝ) : |signed sign v| = |v| := by
  cases sign with
  | positive => rfl
  | negative => exact abs_neg v

/-- **A double is a real number rounded**, or infinite where that is too large. -/
structure Rounds (x : Float) (v : ℝ) : Prop where
  finite : |rounded v| < 2 ^ (1024 : ℤ) → x.isFinite = true ∧ value x = rounded v
  infinite : 2 ^ (1024 : ℤ) ≤ |rounded v| →
    parts x = .infinity (if v < 0 then .negative else .positive)

/-- Finite numbers in the form of doubles are below the range. -/
theorem abs_realOf_lt (canonical : Canonical u) : |realOf u| < 2 ^ (1024 : ℤ) := by
  cases canonical with
  | notANumber => exact abs_zero.trans_lt (by positivity)
  | infinity sign => exact abs_zero.trans_lt (by positivity)
  | zero sign => exact abs_zero.trans_lt (by positivity)
  | finite sign mantissa exponent positive digits full least most =>
    show |signed sign _| < _
    rw [abs_signed, abs_of_nonneg (by positivity)]
    exact (bounds_of_digits exponent digits).trans_le
      (zpow_le_zpow_right₀ (by norm_num) (by omega))

/-- A number in the form of doubles is packed as it is. -/
theorem rounds_pack_canonical (canonical : Canonical u) (finite : u.isFinite = true)
    (nearest : realOf u = rounded v) : Rounds (.ofModel (.pack u)) v := by
  have parts_eq : parts (.ofModel (.pack u)) = u := unpack_pack canonical
  have below := abs_realOf_lt canonical
  refine ⟨fun _ => ⟨?_, ?_⟩, fun large => ?_⟩
  · rw [isFinite_eq, parts_eq]
    exact finite
  · unfold value
    rw [parts_eq, nearest]
  · rw [nearest] at below
    exact absurd below (not_lt.mpr large)

/-- A number that is rounded beyond the range is infinite. -/
theorem rounds_infinity {x : Float} (nonneg : 0 ≤ v) (above : 2 ^ (1024 : ℤ) ≤ rounded v)
    (parts_eq : parts x = .infinity sign) : Rounds x (signed sign v) := by
  refine ⟨fun small => ?_, fun _ => ?_⟩
  · rw [rounded_signed, abs_signed, abs_of_nonneg (rounded_nonneg nonneg)] at small
    exact absurd small (not_lt.mpr above)
  · rw [parts_eq]
    cases sign with
    | positive =>
      show UnpackedFloat.infinity _ = .infinity (if v < 0 then _ else _)
      rw [if_neg (not_lt.mpr nonneg)]
    | negative =>
      have nonzero : v ≠ 0 := by
        rintro rfl
        rw [rounded_zero] at above
        exact absurd above (not_le.mpr (by positivity))
      show UnpackedFloat.infinity _ = .infinity (if -v < 0 then _ else _)
      rw [if_pos (neg_lt_zero.mpr (lt_of_le_of_ne nonneg nonzero.symm))]

/-- **A nearest magnitude with its sign is packed to the number rounded.** -/
theorem rounds_pack (nonneg : 0 ≤ v) (nearest : NearestMagnitude sign v u) :
    Rounds (.ofModel (.pack u)) (signed sign v) := by
  cases nearest with
  | zero vanishes =>
    refine rounds_pack_canonical (.zero sign) rfl ?_
    rw [rounded_signed, vanishes]
    cases sign with
    | positive => rfl
    | negative => exact neg_zero.symm
  | finite mantissa exponent positive digits full least nearest =>
    rcases le_or_gt exponent 971 with most | large
    · refine rounds_pack_canonical (.finite sign _ _ _ digits full least most) rfl ?_
      rw [rounded_signed, nearest]
      rfl
    · refine rounds_infinity nonneg ?_ (unpack_pack_overflow positive large)
      rw [nearest]
      exact (zpow_le_zpow_right₀ (by norm_num) (by omega)).trans
        (bounds_of_full exponent (full.resolve_right (by omega)))

end Results

end IncompleteBeta.Binary64
