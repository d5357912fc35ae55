/-
**Errors that add up.**

A computation on doubles of moderate size is followed step by step, with what each result is off the
exact one at most.

* **`value_exact`**, `LiesBetween`, `liesBetween_spec`: the exact value of a double is its number,
  and bounds on constants that are read off it;
* `Near`, **`Near.of_rounds`**: how far a finite double is off a real number, and what one more
  rounding adds to that;
* **`Near.add`**: the errors of a sum add up.
-/

import IncompleteBeta.Proofs.Binary64.Logarithm

namespace IncompleteBeta.Binary64

/-! ### Constants -/

section Constants

variable {x : Float}

/-- **The exact value of a finite double is its number.** -/
theorem value_exact (finite : x.isFinite = true) : value x = (exact x).value := by
  have mantissa : (exact x).mantissa =
      if signBit x then -((exact x).mantissa.natAbs : ℤ) else (exact x).mantissa.natAbs := by
    unfold exact
    dsimp only
    generalize (if exponentField x = 0 then fractionField x
      else 1 <<< 52 + fractionField x) = magnitude
    split
    · rw [Int.natAbs_neg, Int.natAbs_natCast]
    · rw [Int.natAbs_natCast]
  rw [value_eq_exact finite, Scaled.value]
  generalize (exact x).mantissa.natAbs = magnitude at mantissa
  rw [mantissa]
  cases signBit x with
  | true =>
    show -((magnitude : ℝ) * _) = ((-(magnitude : ℤ) : ℤ) : ℝ) * _
    rw [Int.cast_neg, Int.cast_natCast, neg_mul]
  | false =>
    show (magnitude : ℝ) * _ = ((magnitude : ℤ) : ℝ) * _
    rw [Int.cast_natCast]

/-- A finite double between two integers, by its exact value. -/
def LiesBetween (low high : Int) (x : Float) : Prop :=
  x.isFinite = true ∧ (exact x).exponent ≤ 0 ∧
    low * 2 ^ (-(exact x).exponent).toNat ≤ (exact x).mantissa ∧
    (exact x).mantissa ≤ high * 2 ^ (-(exact x).exponent).toNat

instance (low high : Int) (x : Float) : Decidable (LiesBetween low high x) :=
  inferInstanceAs (Decidable (_ ∧ _ ∧ _ ∧ _))

theorem liesBetween_spec {low high : ℤ} (lies : LiesBetween low high x) :
    x.isFinite = true ∧ (low : ℝ) ≤ value x ∧ value x ≤ high := by
  obtain ⟨finite, fraction, above, below⟩ := lies
  obtain ⟨digits, digits_eq⟩ : ∃ digits : ℕ, -(exact x).exponent = digits :=
    Int.eq_ofNat_of_zero_le (by omega)
  rw [digits_eq, Int.toNat_natCast] at above below
  have above : (low : ℝ) * 2 ^ digits ≤ (exact x).mantissa := by exact_mod_cast above
  have below : ((exact x).mantissa : ℝ) ≤ high * 2 ^ digits := by exact_mod_cast below
  rw [value_exact finite, Scaled.value, show (exact x).exponent = -digits by omega, zpow_neg,
    zpow_natCast, ← div_eq_mul_inv, le_div_iff₀ (by positivity), div_le_iff₀ (by positivity)]
  exact ⟨finite, above, below⟩

/-- A double that is an integer. -/
theorem value_eq_of_liesBetween {n : ℤ} (lies : LiesBetween n n x) : value x = n :=
  le_antisymm (liesBetween_spec lies).2.2 (liesBetween_spec lies).2.1

end Constants

/-! ### Errors -/

/-- **A finite double is so far off a real number at most.** -/
structure Near (x : Float) (v error : ℝ) : Prop where
  finite : x.isFinite = true
  close : |value x - v| ≤ error

section Errors

variable {x y z : Float} {v w error otherError : ℝ}

/-- **One more rounding** adds half a unit of the last digit. -/
theorem Near.of_rounds {k : ℤ} (rounds : Rounds x w) (close : |w - v| ≤ error)
    (size : |w| < 2 ^ (k + 53)) (least : -1074 ≤ k) (most : k < 971) :
    Near x v (error + 2 ^ k) := by
  have step := abs_rounded_sub_le_of_lt size least
  have scale : (0 : ℝ) < 2 ^ k := by positivity
  have grid : OnGrid ((2 : ℝ) ^ (k + 53)) := onGrid_zpow (by omega)
  obtain ⟨above, below⟩ := abs_le.mp size.le
  have range : |rounded w| < 2 ^ (1024 : ℤ) :=
    (abs_le.mpr ⟨le_rounded_of_onGrid grid.neg above, rounded_le_of_onGrid grid below⟩).trans_lt
      (zpow_lt_range (by omega))
  obtain ⟨finite, value_eq⟩ := rounds.finite range
  refine ⟨finite, ?_⟩
  calc |value x - v| = |(rounded w - w) + (w - v)| := by rw [value_eq]; ring_nf
    _ ≤ |rounded w - w| + |w - v| := abs_add_le _ _
    _ ≤ error + 2 ^ k := by linarith

/-- **The errors of a sum add up.** -/
theorem Near.add {k : ℤ} (near : Near x v error) (otherNear : Near y w otherError)
    (size : |v + w| + (error + otherError) < 2 ^ (k + 53)) (least : -1074 ≤ k) (most : k < 971) :
    Near (x + y) (v + w) (error + otherError + 2 ^ k) := by
  have close : |value x + value y - (v + w)| ≤ error + otherError :=
    calc |value x + value y - (v + w)| = |(value x - v) + (value y - w)| := by ring_nf
      _ ≤ |value x - v| + |value y - w| := abs_add_le _ _
      _ ≤ error + otherError := add_le_add near.close otherNear.close
  refine Near.of_rounds (rounds_add near.finite otherNear.finite) close ?_ least most
  have triangle := abs_sub_abs_le_abs_sub (value x + value y) (v + w)
  linarith

end Errors

end IncompleteBeta.Binary64
