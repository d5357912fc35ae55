/-
**How large logarithms of doubles are.**

The logarithm of a number `f · 2 ^ k` is `k` times that of 2 and the rest, and the rest is small:
`f` lies around 1, where the series of the inverse hyperbolic tangent falls fast.

* `artanhSeries_mul_le`, `artanh_le`: the series is not much more than its first term;
* `Scaled.value`, `rounds_scaled_toFloat`: the number of an exact value, which is rounded once;
* `LogarithmOf`, **`logarithmOf_logScaled`**: the octaves of a positive number and the rest of its
  logarithm;
* `LogarithmOf.nonneg_of_one_le`, `octaves_between`: its sign, and how many octaves there are;
* **`ln_finite`**: the logarithm of a positive double is finite, of magnitude 1024 at most, and not
  negative from 1 on.
-/

import IncompleteBeta.Binary64.Logarithm
import IncompleteBeta.Proofs.Binary64.Nonzero
import IncompleteBeta.Proofs.Decimal.Scaling

namespace IncompleteBeta.Binary64

/-! ### The series -/

section Series

/-- **The series is at most a geometric one**, of its first term and the ratio `square`. -/
theorem artanhSeries_mul_le {precision square rest : Nat} (ratio : square + rest = 2 ^ precision)
    (terms odd power : Nat) :
    artanhSeries precision square terms odd power * rest ≤ power * 2 ^ precision := by
  induction terms generalizing odd power with
  | zero =>
    unfold artanhSeries
    omega
  | succ terms ih =>
    unfold artanhSeries
    split
    next => omega
    next =>
      have later := ih (odd + 2) ((power * square) >>> precision)
      rw [Nat.shiftRight_eq_div_pow] at later ⊢
      calc (power / odd + artanhSeries precision square terms (odd + 2)
              (power * square / 2 ^ precision)) * rest
          ≤ power * rest + power * square / 2 ^ precision * 2 ^ precision := by
            rw [add_mul]
            exact add_le_add (Nat.mul_le_mul_right rest (Nat.div_le_self power odd)) later
        _ ≤ power * rest + power * square :=
            Nat.add_le_add_left (Nat.div_mul_le_self _ _) _
        _ = power * 2 ^ precision := by rw [← ratio]; ring

/-- **The inverse hyperbolic tangent of up to one fifth** is at most five twenty-fourths. -/
theorem artanh_le {precision s : Nat} (fifth : 5 * s ≤ 2 ^ precision) :
    24 * artanh precision s ≤ 5 * 2 ^ precision := by
  have unit : 0 < 2 ^ precision := Nat.two_pow_pos precision
  have square_le : 25 * ((s * s) >>> precision) ≤ 2 ^ precision := by
    rw [Nat.shiftRight_eq_div_pow]
    refine Nat.le_of_mul_le_mul_right ?_ unit
    calc 25 * (s * s / 2 ^ precision) * 2 ^ precision
        = 25 * (s * s / 2 ^ precision * 2 ^ precision) := by ring
      _ ≤ 25 * (s * s) := Nat.mul_le_mul_left 25 (Nat.div_mul_le_self _ _)
      _ = 5 * s * (5 * s) := by ring
      _ ≤ 2 ^ precision * 2 ^ precision := Nat.mul_le_mul fifth fifth
  obtain ⟨rest, ratio⟩ : ∃ rest, (s * s) >>> precision + rest = 2 ^ precision :=
    ⟨2 ^ precision - (s * s) >>> precision, by omega⟩
  have series := artanhSeries_mul_le ratio 64 1 s
  have rest_ge : 24 * 2 ^ precision ≤ 25 * rest := by omega
  refine Nat.le_of_mul_le_mul_right ?_ unit
  calc 24 * artanh precision s * 2 ^ precision
      = artanh precision s * (24 * 2 ^ precision) := by ring
    _ ≤ artanh precision s * (25 * rest) := Nat.mul_le_mul_left _ rest_ge
    _ = 25 * (artanh precision s * rest) := by ring
    _ ≤ 25 * (s * 2 ^ precision) := Nat.mul_le_mul_left 25 series
    _ = 5 * (5 * s) * 2 ^ precision := by ring
    _ ≤ 5 * 2 ^ precision * 2 ^ precision :=
        Nat.mul_le_mul_right _ (Nat.mul_le_mul_left 5 fifth)

end Series

/-! ### Exact values -/

attribute [local instance] atLeastTwo_two in
/-- The real number of an exact value. -/
noncomputable def Scaled.value (v : Scaled) : ℝ := v.mantissa * 2 ^ v.exponent

/-- **An exact value is rounded once.** -/
theorem rounds_scaled_toFloat (v : Scaled) : Rounds v.toFloat v.value := by
  have rounds := rounds_nearest (decide (v.mantissa < 0)) v.mantissa.natAbs v.exponent
  have number : v.value =
      signed (signOf (decide (v.mantissa < 0))) (v.mantissa.natAbs * 2 ^ v.exponent) := by
    have magnitude : ((v.mantissa.natAbs : ℕ) : ℝ) = |(v.mantissa : ℝ)| := by
      rw [Nat.cast_natAbs, Int.cast_abs]
    rw [magnitude, Scaled.value]
    by_cases negative : v.mantissa < 0
    · rw [decide_eq_true negative, abs_of_neg (by exact_mod_cast negative)]
      show _ = -(_ * _)
      ring
    · rw [decide_eq_false negative, abs_of_nonneg (by exact_mod_cast not_lt.mp negative)]
      rfl
  rw [number]
  exact rounds

/-! ### Octaves and the rest -/

/-- The logarithm of 2, as it is reckoned with. -/
noncomputable def octave : ℝ := (⟨lnTwo, -fixedBits⟩ : Scaled).value

theorem octave_bounds : 69 / 100 ≤ octave ∧ octave ≤ 7 / 10 := by
  have above : 69 * 2 ^ 192 ≤ 100 * lnTwo := by decide
  have below : 10 * lnTwo ≤ 7 * 2 ^ 192 := by decide
  have above : (69 : ℝ) * 2 ^ 192 ≤ 100 * lnTwo := by exact_mod_cast above
  have below : (10 : ℝ) * lnTwo ≤ 7 * 2 ^ 192 := by exact_mod_cast below
  have octave_eq : octave = lnTwo / 2 ^ 192 := by
    unfold octave Scaled.value
    rw [div_eq_mul_inv, ← zpow_natCast, ← zpow_neg]
    rfl
  rw [octave_eq, le_div_iff₀ (by positivity), div_le_iff₀ (by positivity)]
  constructor <;> linarith

/-- **The logarithm of a number**: its octaves, and a small rest with the sign of what the number
has above or below them. -/
structure LogarithmOf (v logarithm : ℝ) (octaves : ℤ) (rest : ℝ) : Prop where
  sum : logarithm = octaves * octave + rest
  small : |rest| ≤ 5 / 12
  nonneg : (2 : ℝ) ^ octaves ≤ v → 0 ≤ rest
  above : (2 : ℝ) ^ octaves ≤ 3 / 2 * v
  below : v < 7 / 5 * 2 ^ octaves

/-- The power of two to which a number of so many digits is related. -/
theorem unit_bounds {n bits : Nat} (nonzero : n ≠ 0)
    (chosen : bits = if 7 <<< n.log2 ≤ 5 * n then n.log2 + 1 else n.log2) :
    2 * 2 ^ bits ≤ 3 * n ∧ 5 * n < 7 * 2 ^ bits := by
  have digits := Nat.log2_self_le nonzero
  have belowTwice := Nat.lt_log2_self (n := n)
  rw [pow_succ] at belowTwice
  rw [Nat.shiftLeft_eq] at chosen
  split at chosen
  next large =>
    rw [chosen, pow_succ]
    omega
  next small =>
    rw [chosen]
    omega

/-- The series for a quotient of at most one fifth is small. -/
theorem artanh_quotient_le {gap sum : Nat} (precision : Nat) (positive : 0 < sum)
    (fifth : 5 * gap ≤ sum) :
    24 * artanh precision ((gap <<< precision) / sum) ≤ 5 * 2 ^ precision := by
  refine artanh_le (Nat.le_of_mul_le_mul_right ?_ positive)
  rw [Nat.shiftLeft_eq]
  calc 5 * (gap * 2 ^ precision / sum) * sum
      = 5 * (gap * 2 ^ precision / sum * sum) := Nat.mul_assoc _ _ _
    _ ≤ 5 * (gap * 2 ^ precision) := Nat.mul_le_mul_left 5 (Nat.div_mul_le_self _ _)
    _ = 5 * gap * 2 ^ precision := (Nat.mul_assoc _ _ _).symm
    _ ≤ sum * 2 ^ precision := Nat.mul_le_mul_right _ fifth
    _ = 2 ^ precision * sum := Nat.mul_comm _ _

/-- **The logarithm of a positive number** is that of its octaves and a small rest. -/
theorem logarithmOf_logScaled {n : Nat} (nonzero : n ≠ 0) (e : ℤ) :
    ∃ octaves rest, LogarithmOf (n * 2 ^ e) (logScaled n e).value octaves rest := by
  unfold logScaled
  dsimp only
  generalize chosen : (if 7 <<< n.log2 ≤ 5 * n then n.log2 + 1 else n.log2) = bits
  obtain ⟨unit_le, lt_unit⟩ := unit_bounds nonzero chosen.symm
  rw [Nat.one_shiftLeft]
  generalize gap_eq : (if n < 2 ^ bits then 2 ^ bits - n else n - 2 ^ bits) = gap
  have fifth : 5 * gap ≤ n + 2 ^ bits := by
    rw [← gap_eq]
    split <;> omega
  generalize precision_eq : (if (bits + e : ℤ) = 0 then 144 + ((n + 2 ^ bits).log2 - gap.log2)
    else fixedBits) = precision
  have half_le := artanh_quotient_le precision (by omega) fifth
  generalize artanh precision ((gap <<< precision) / (n + 2 ^ bits)) = half at half_le ⊢
  generalize fractional_eq :
    (if n < 2 ^ bits then -((2 * half : ℕ) : ℤ) else ((2 * half : ℕ) : ℤ)) = fractional
  have scale : (0 : ℝ) < 2 ^ e := by positivity
  have unit_eq : (2 : ℝ) ^ (bits + e : ℤ) = 2 ^ bits * 2 ^ e := by
    rw [zpow_add₀ (by norm_num), zpow_natCast]
  have unit_le : (2 : ℝ) * 2 ^ bits ≤ 3 * n := by exact_mod_cast unit_le
  have lt_unit : (5 : ℝ) * n < 7 * 2 ^ bits := by exact_mod_cast lt_unit
  refine ⟨bits + e, fractional * 2 ^ (-precision : ℤ), ?_, ?_, ?_, ?_, ?_⟩
  · unfold Scaled.value octave Scaled.value
    dsimp only
    split at precision_eq
    next none =>
      rw [none]
      push_cast
      ring
    next some =>
      rw [← precision_eq]
      push_cast
      ring
  · have magnitude : |(fractional : ℝ)| = 2 * half := by
      rw [← fractional_eq]
      split
      · rw [Int.cast_neg, abs_neg, Int.cast_natCast, Nat.abs_cast, Nat.cast_mul, Nat.cast_ofNat]
      · rw [Int.cast_natCast, Nat.abs_cast, Nat.cast_mul, Nat.cast_ofNat]
    have half_le : (24 : ℝ) * half ≤ 5 * 2 ^ precision := by exact_mod_cast half_le
    rw [abs_mul, magnitude, abs_of_pos (by positivity), zpow_neg, zpow_natCast,
      ← div_eq_mul_inv, div_le_iff₀ (by positivity)]
    linarith
  · intro le
    rw [unit_eq] at le
    have le : (2 : ℝ) ^ bits ≤ n := le_of_mul_le_mul_right le scale
    have le : 2 ^ bits ≤ n := by exact_mod_cast le
    rw [← fractional_eq, if_neg (not_lt.mpr le), Int.cast_natCast]
    positivity
  · rw [unit_eq]
    nlinarith
  · rw [unit_eq]
    nlinarith

/-- From one octave on the rest cannot outweigh them, and without any it is not negative. -/
theorem LogarithmOf.nonneg_of_one_le {v logarithm rest : ℝ} {octaves : ℤ}
    (of : LogarithmOf v logarithm octaves rest) (one_le : 1 ≤ v) : 0 ≤ logarithm := by
  have below := of.below
  have octaves_nonneg : -1 < octaves := by
    refine (zpow_lt_zpow_iff_right₀ (by norm_num : (1 : ℝ) < 2)).mp ?_
    norm_num
    linarith
  rw [of.sum]
  rcases (show 0 ≤ octaves by omega).eq_or_lt with none | some
  · have nonneg := of.nonneg
    rw [← none, zpow_zero] at nonneg
    rw [← none, Int.cast_zero, zero_mul, zero_add]
    exact nonneg one_le
  · have some : (1 : ℝ) ≤ octaves := by exact_mod_cast some
    obtain ⟨octave_ge, _⟩ := octave_bounds
    obtain ⟨rest_ge, _⟩ := abs_le.mp of.small
    nlinarith

/-! ### Logarithms of doubles -/

section Doubles

variable {x : Float} (finite : x.isFinite = true) (positive : 0 < value x)
include finite positive

/-- **The logarithm of a positive double** is rounded once. -/
theorem exists_rounds_ln : ∃ logarithm octaves rest,
    Rounds (ln x) logarithm ∧ LogarithmOf (value x) logarithm octaves rest := by
  have sign : signOf (signBit x) = .positive := by
    cases sign : signOf (signBit x) with
    | positive => rfl
    | negative =>
      rw [value_eq_exact finite, sign] at positive
      have nonneg : (0 : ℝ) ≤ (exact x).mantissa.natAbs * 2 ^ (exact x).exponent := by positivity
      have opposite : 0 < -((exact x).mantissa.natAbs * 2 ^ (exact x).exponent : ℝ) := positive
      linarith
  have number : value x = (exact x).mantissa.natAbs * 2 ^ (exact x).exponent := by
    rw [value_eq_exact finite, sign]
    rfl
  have nonzero : (exact x).mantissa.natAbs ≠ 0 := by
    intro zero
    rw [number, zero, Nat.cast_zero, zero_mul] at positive
    exact lt_irrefl _ positive
  have not_negative : ¬x < 0.0 := by
    rw [lt_iff finite isFinite_zero, value_zero, not_lt]
    exact positive.le
  have not_zero : ¬(x == 0.0) = true := by
    rw [beq_iff finite isFinite_zero, value_zero]
    exact positive.ne'
  have ln_eq : ln x = (logScaled (exact x).mantissa.natAbs (exact x).exponent).toFloat := by
    unfold ln
    rw [isNaN_of_isFinite finite, decide_eq_false not_negative, if_neg (by decide),
      if_neg not_zero, isInf_of_isFinite finite, if_neg (by decide)]
  obtain ⟨octaves, rest, logarithm⟩ := logarithmOf_logScaled nonzero (exact x).exponent
  rw [ln_eq, number]
  exact ⟨_, octaves, rest, rounds_scaled_toFloat _, logarithm⟩

omit finite in
/-- The octaves of a positive double are those of its exponents. -/
theorem octaves_between {logarithm rest : ℝ} {octaves : ℤ}
    (of : LogarithmOf (value x) logarithm octaves rest) : -1075 ≤ octaves ∧ octaves ≤ 1024 := by
  obtain ⟨_, _, _, above, below⟩ := of
  constructor
  · have least_le := least_le_abs_sub (onGrid_value x) onGrid_zero positive.ne'
    rw [sub_zero, abs_of_pos positive] at least_le
    have scale : (0 : ℝ) < 2 ^ octaves := by positivity
    have power : (2 : ℝ) ^ (-1074 : ℤ) < 2 ^ (octaves + 1) :=
      calc (2 : ℝ) ^ (-1074 : ℤ) ≤ value x := least_le
        _ < 2 ^ octaves * 2 := by linarith
        _ = 2 ^ (octaves + 1) := (zpow_add_one₀ (by norm_num) octaves).symm
    have := (zpow_lt_zpow_iff_right₀ (by norm_num)).mp power
    omega
  · have range : value x < 2 ^ (1024 : ℤ) :=
      (le_abs_self _).trans_lt (abs_realOf_lt (canonical_parts x))
    have power : (2 : ℝ) ^ octaves < 2 ^ (1025 : ℤ) :=
      calc (2 : ℝ) ^ octaves ≤ value x * 2 := by linarith
        _ < 2 ^ (1024 : ℤ) * 2 := mul_lt_mul_of_pos_right range (by norm_num)
        _ = 2 ^ (1025 : ℤ) := (zpow_add_one₀ (by norm_num) 1024).symm
    have := (zpow_lt_zpow_iff_right₀ (by norm_num)).mp power
    omega

/-- **The logarithm of a positive double is finite** and of moderate size, and it is not negative
from 1 on. -/
theorem ln_finite :
    (ln x).isFinite = true ∧ |value (ln x)| ≤ 2 ^ (10 : ℤ) ∧ (1 ≤ value x → 0 ≤ value (ln x)) := by
  obtain ⟨logarithm, octaves, rest, rounds, of⟩ := exists_rounds_ln finite positive
  obtain ⟨least, most⟩ := octaves_between positive of
  have bounded : |logarithm| ≤ 2 ^ (10 : ℤ) := by
    have most : (octaves : ℝ) ≤ 1024 := by exact_mod_cast most
    have least : (-1075 : ℝ) ≤ octaves := by exact_mod_cast least
    obtain ⟨octave_ge, octave_le⟩ := octave_bounds
    obtain ⟨rest_ge, rest_le⟩ := abs_le.mp of.small
    rw [of.sum, abs_le]
    constructor <;> norm_num <;> nlinarith
  have grid : OnGrid (2 ^ (10 : ℤ)) := onGrid_zpow (by norm_num)
  obtain ⟨ge_low, le_high⟩ := abs_le.mp bounded
  have rounded_le : |rounded logarithm| ≤ 2 ^ (10 : ℤ) :=
    abs_le.mpr ⟨le_rounded_of_onGrid grid.neg ge_low, rounded_le_of_onGrid grid le_high⟩
  obtain ⟨finite_ln, value_eq⟩ :=
    rounds.finite (rounded_le.trans_lt (zpow_lt_range (by norm_num)))
  rw [value_eq]
  exact ⟨finite_ln, rounded_le, fun one_le => rounded_nonneg (of.nonneg_of_one_le one_le)⟩

end Doubles

end IncompleteBeta.Binary64
