/-
**The double nearest an exact number.**

Doubles are not only made by operations on doubles: exact numbers are rounded to one by putting its
bits together.

* `unpack_withSign`: what the bits of a sign, an exponent and digits unpack to;
* `divRoundEven_eq`: integer division that rounds is rounding of the quotient;
* **`rounds_nearest`**: a multiple of a power of two is rounded correctly;
* `rounded_eq_of_between`: many digits, and whether more follow, decide how to round;
* **`rounds_nearestRatio`**: a quotient is rounded correctly.
-/

import IncompleteBeta.Proofs.Binary64.Arithmetic
import IncompleteBeta.Proofs.Binary64.Fields

namespace IncompleteBeta.Binary64

open Float.Model (UnpackedFloat Format)
open Float.Model.UnpackedFloat (Sign Accuracy pack unpack packComponents roundWithAccuracy)

/-! ### Bits -/

section Bits

/-- The bits of a magnitude, with a sign bit. -/
def bitsOf (negative : Bool) (magnitude : Nat) : UInt64 :=
  UInt64.ofNat (if negative then magnitude + (1 <<< 63) else magnitude)

theorem nearest_eq (negative : Bool) (n : Nat) (e : Int) :
    nearest negative n e = Float.ofBits (bitsOf negative (magnitudeBits n e)) := rfl

theorem ofBits_eq (bits : UInt64) :
    Float.ofBits bits = .ofModel (.pack (unpack Format.binary64 bits.toBitVec)) := rfl

theorem parts_ofBits (bits : UInt64) :
    parts (Float.ofBits bits) = unpack Format.binary64 bits.toBitVec :=
  unpack_pack (canonical_unpack _)

variable (negative : Bool)

theorem toNat_bitsOf {magnitude : Nat} (small : magnitude < 2 ^ 63) :
    (bitsOf negative magnitude).toBitVec.toNat =
      (signOf negative).toBitVec.toNat * 2 ^ 63 + magnitude := by
  rw [UInt64.toNat_toBitVec, bitsOf, UInt64.toNat_ofNat']
  cases negative with
  | true =>
    have bit : (signOf true).toBitVec.toNat = 1 := rfl
    rw [bit, if_pos rfl, Nat.shiftLeft_eq]
    omega
  | false =>
    have bit : (signOf false).toBitVec.toNat = 0 := rfl
    rw [bit, if_neg Bool.false_ne_true]
    omega

/-- A sign bit and the bits of a magnitude are the fields of a double. -/
theorem toBitVec_bitsOf {magnitude : Nat} (small : magnitude < 2 ^ 63) :
    (bitsOf negative magnitude).toBitVec =
      packComponents Format.binary64 (signOf negative) (BitVec.ofNat 11 (magnitude / 2 ^ 52))
        (BitVec.ofNat 52 magnitude) := by
  have field : (BitVec.ofNat 11 (magnitude / 2 ^ 52)).toNat = magnitude / 2 ^ 52 := by
    rw [BitVec.toNat_ofNat]
    omega
  have stored : (BitVec.ofNat 52 magnitude).toNat = magnitude % 2 ^ 52 := BitVec.toNat_ofNat _ _
  refine BitVec.eq_of_toNat_eq ?_
  rw [toNat_bitsOf negative small, toNat_packComponents, field, stored]
  omega

/-- **What the bits of a sign, an exponent and digits unpack to.** The leading one of 53 digits
carries into the exponent field. -/
theorem unpack_bitsOf {field mantissa : Nat} (digits : mantissa < 2 ^ 53)
    (full : 2 ^ 52 ≤ mantissa ∨ field = 0) (range : field ≤ 2045) (positive : 0 < mantissa) :
    unpack Format.binary64 (bitsOf negative (field <<< 52 + mantissa)).toBitVec =
      .finite (signOf negative) mantissa ((field : Int) - 1074) positive := by
  rw [Nat.shiftLeft_eq, toBitVec_bitsOf negative (by omega)]
  rcases lt_or_ge mantissa (2 ^ 52) with few | many
  · have least : field = 0 := full.resolve_left (by omega)
    have stored : (BitVec.ofNat 52 (field * 2 ^ 52 + mantissa)).toNat = mantissa := by
      rw [BitVec.toNat_ofNat]
      omega
    rw [show (field * 2 ^ 52 + mantissa) / 2 ^ 52 = 0 by omega,
      unpack_subnormal _ _ (by rw [stored]; exact positive)]
    congr 1
    omega
  · have stored : (BitVec.ofNat 52 (field * 2 ^ 52 + mantissa)).toNat = mantissa - 2 ^ 52 := by
      rw [BitVec.toNat_ofNat]
      omega
    have exponent : (BitVec.ofNat 11 ((field * 2 ^ 52 + mantissa) / 2 ^ 52)).toNat = field + 1 := by
      rw [BitVec.toNat_ofNat]
      omega
    rw [unpack_normal]
    · congr 1
      · rw [stored]
        omega
      · rw [exponent]
        omega
    · intro zero
      rw [zero] at exponent
      exact absurd exponent (by simp)
    · intro top
      rw [top] at exponent
      exact absurd exponent (by simp; omega)

theorem unpack_bitsOf_zero :
    unpack Format.binary64 (bitsOf negative 0).toBitVec = .zero (signOf negative) := by
  cases negative <;> rfl

theorem unpack_bitsOf_infinity :
    unpack Format.binary64 (bitsOf negative infinityBits).toBitVec =
      .infinity (signOf negative) := by
  cases negative <;> rfl

end Bits

/-! ### Rounding to an integer -/

/-- **Integer division that rounds is rounding of the quotient.** -/
theorem divRoundEven_eq (n : Nat) {d : Nat} (positive : 0 < d) :
    roundEven ((n : ℝ) / d) = (divRoundEven n d : ℤ) := by
  have scale : (0 : ℝ) < d := by exact_mod_cast positive
  have rest_lt : n % d < d := Nat.mod_lt n positive
  have quotient : (n : ℝ) / d = ((n / d : ℕ) : ℝ) + ((n % d : ℕ) : ℝ) / d := by
    have whole : (n : ℝ) = d * ((n / d : ℕ) : ℝ) + ((n % d : ℕ) : ℝ) := by
      exact_mod_cast (Nat.div_add_mod n d).symm
    rw [div_eq_iff scale.ne', add_mul, div_mul_cancel₀ _ scale.ne', mul_comm _ (d : ℝ)]
    exact whole
  have below : ((n % d : ℕ) : ℝ) / d < 1 := by
    rw [div_lt_one scale]
    exact_mod_cast rest_lt
  have above : 0 ≤ ((n % d : ℕ) : ℝ) / d := by positivity
  have half_lt : ((n % d : ℕ) : ℝ) / d < 1 / 2 ↔ 2 * (n % d) < d := by
    rw [div_lt_div_iff₀ scale (by norm_num), one_mul, mul_comm]
    exact_mod_cast Iff.rfl
  have half_eq : ((n % d : ℕ) : ℝ) / d = 1 / 2 ↔ 2 * (n % d) = d := by
    rw [div_eq_div_iff scale.ne' (by norm_num), one_mul, mul_comm]
    exact_mod_cast Iff.rfl
  have floor_eq : ⌊(n : ℝ) / d⌋ = ((n / d : ℕ) : ℤ) := by
    rw [Int.floor_eq_iff, Int.cast_natCast]
    constructor <;> linarith
  have fract_eq : Int.fract ((n : ℝ) / d) = ((n % d : ℕ) : ℝ) / d := by
    rw [Int.fract, floor_eq, Int.cast_natCast]
    linarith
  unfold roundEven divRoundEven
  dsimp only
  simp only [fract_eq, floor_eq, half_lt, half_eq, Int.even_coe_nat, Nat.even_iff]
  split <;> simp

/-! ### Exact numbers -/

section Nearest

variable {v w : ℝ} {negative : Bool}

/-- **The bits of a rounding are a rounded double.** -/
theorem rounds_of_rounding {mantissa : Nat} {target : ℤ} (nonneg : 0 ≤ v)
    (rounding : Rounding v mantissa target) (least : -1074 ≤ target) (most : target ≤ 971) :
    Rounds (Float.ofBits (bitsOf negative ((target + 1074).toNat <<< 52 + mantissa)))
      (signed (signOf negative) v) := by
  obtain ⟨digits, full, nearest⟩ := rounding
  obtain ⟨field, rfl⟩ : ∃ field : ℕ, target = (field : ℤ) - 1074 :=
    ⟨(target + 1074).toNat, by omega⟩
  rw [sub_add_cancel, Int.toNat_natCast]
  rcases Nat.eq_zero_or_pos mantissa with rfl | positive
  · have field_eq : field = 0 := by omega
    rw [ofBits_eq, field_eq, Nat.zero_shiftLeft, unpack_bitsOf_zero]
    refine rounds_pack nonneg (.zero ?_)
    rw [nearest, Nat.cast_zero, zero_mul]
  rcases digits.lt_or_eq with inside | carry
  · rw [ofBits_eq, unpack_bitsOf negative inside (by omega) (by omega) positive]
    exact rounds_pack nonneg (.finite mantissa _ positive inside full least nearest)
  · -- The carry moves into the exponent field, and from the last one it goes to infinity.
    have carried : field <<< 52 + mantissa = (field + 1) <<< 52 + 2 ^ 52 := by
      rw [carry, Nat.shiftLeft_eq, Nat.shiftLeft_eq]
      ring
    have nearest : rounded v = (2 ^ 52 : ℕ) * 2 ^ (((field + 1 : ℕ) : ℤ) - 1074) := by
      rw [nearest, carry, Nat.cast_add, Nat.cast_one, add_sub_right_comm, zpow_add₀ (by norm_num)]
      push_cast
      ring
    rw [carried]
    rcases le_or_gt (field + 1) 2045 with range | last
    · rw [ofBits_eq, unpack_bitsOf negative (by norm_num) (Or.inl le_rfl) range (by norm_num)]
      exact rounds_pack nonneg (.finite _ _ _ (by norm_num) (Or.inl le_rfl) (by omega) nearest)
    · obtain rfl : field = 2045 := by omega
      refine rounds_infinity nonneg ?_ ?_
      · have size : (2 : ℝ) ^ (972 + 52 : ℤ) ≤ (2 ^ 52 : ℕ) * 2 ^ (972 : ℤ) :=
          bounds_of_full 972 le_rfl
        rw [nearest]
        exact size
      · rw [parts_ofBits, show (2045 + 1) <<< 52 + 2 ^ 52 = infinityBits from rfl,
          unpack_bitsOf_infinity]

/-- How large a multiple of a power of two is. -/
theorem bounds_of_multiple {n : Nat} (nonzero : n ≠ 0) (e : ℤ) :
    2 ^ (n.log2 + e : ℤ) ≤ |(n : ℝ) * 2 ^ e| ∧ |(n : ℝ) * 2 ^ e| < 2 ^ (n.log2 + e + 1 : ℤ) := by
  have truncates : Truncates n .exact ((n : ℝ) * 2 ^ e / 2 ^ e) :=
    mul_div_cancel_right₀ _ (by positivity)
  exact bounds_of_truncates nonzero truncates

/-- The digits over the spacing are those that integer arithmetic finds. -/
theorem rounding_of_multiple {n : Nat} (nonzero : n ≠ 0) {e grid : ℤ}
    (grid_eq : grid = max ((n.log2 : ℤ) + 1 + e - 53) (-1074)) :
    Rounding (n * 2 ^ e)
      (if grid ≤ e then n <<< (e - grid).toNat else divRoundEven n (1 <<< (grid - e).toNat))
      grid := by
  obtain ⟨above, below⟩ := bounds_of_multiple nonzero e
  have target_eq : grid = quantum (n * 2 ^ e) := by
    rw [quantum_of_bounds above below]
    omega
  refine rounding_of_roundEven (by positivity) (by positivity) target_eq ?_
  split
  next shorter =>
    obtain ⟨count, count_eq⟩ : ∃ count : ℕ, e - grid = count :=
      Int.eq_ofNat_of_zero_le (by omega)
    have multiple : (n : ℝ) * 2 ^ e / 2 ^ grid = ((n <<< count : ℕ) : ℤ) := by
      rw [mul_div_assoc, ← zpow_sub₀ (by norm_num), count_eq, zpow_natCast, Nat.shiftLeft_eq]
      push_cast
      rfl
    rw [count_eq, Int.toNat_natCast, multiple, roundEven_intCast]
  next longer =>
    obtain ⟨count, count_eq⟩ : ∃ count : ℕ, grid - e = count :=
      Int.eq_ofNat_of_zero_le (by omega)
    have quotient : (n : ℝ) * (2 : ℝ) ^ e / (2 : ℝ) ^ grid = n / ((1 <<< count : ℕ) : ℝ) := by
      rw [show grid = e + count by omega, zpow_add₀ (by norm_num), zpow_natCast, Nat.shiftLeft_eq,
        ← div_div, mul_div_cancel_right₀ _ (by positivity)]
      push_cast
      ring
    rw [count_eq, Int.toNat_natCast, quotient]
    exact divRoundEven_eq n (by rw [Nat.shiftLeft_eq]; positivity)

/-- **A multiple of a power of two is rounded correctly.** -/
theorem rounds_nearest (negative : Bool) (n : Nat) (e : ℤ) :
    Rounds (nearest negative n e) (signed (signOf negative) (n * 2 ^ e)) := by
  rw [nearest_eq, magnitudeBits]
  split
  next zero =>
    rw [ofBits_eq, unpack_bitsOf_zero, zero, Nat.cast_zero, zero_mul]
    exact rounds_pack le_rfl (.zero rounded_zero)
  next nonzero =>
    have nonneg : (0 : ℝ) ≤ n * 2 ^ e := by positivity
    dsimp only
    split
    next large =>
      refine rounds_infinity nonneg ?_ (by rw [parts_ofBits, unpack_bitsOf_infinity])
      refine le_rounded_of_onGrid (onGrid_zpow (by norm_num)) ?_
      have above := (bounds_of_multiple nonzero e).1
      rw [abs_of_nonneg nonneg] at above
      exact (zpow_le_zpow_right₀ (by norm_num) (by omega)).trans above
    next small =>
      generalize grid_eq : max ((n.log2 : ℤ) + 1 + e - 53) (-1074) = grid
      have rounding := rounding_of_multiple nonzero grid_eq.symm
      generalize (if grid ≤ e then n <<< (e - grid).toNat
        else divRoundEven n (1 <<< (grid - e).toNat)) = mantissa at rounding ⊢
      have digits := rounding.digits
      rw [min_eq_right]
      · exact rounds_of_rounding nonneg rounding (by omega) (by omega)
      · have field : (grid + 1074).toNat ≤ 2045 := by omega
        rw [infinityBits, Nat.shiftLeft_eq, Nat.shiftLeft_eq]
        omega

/-! ### Quotients -/

/-- An unpacked double is the nearest magnitude of numbers that are rounded alike. -/
theorem NearestMagnitude.rounded_eq {sign : Sign} {u : UnpackedFloat}
    (nearest : NearestMagnitude sign v u) (otherNearest : NearestMagnitude sign w u) :
    rounded v = rounded w := by
  cases nearest with
  | zero vanishes =>
    cases otherNearest with
    | zero otherVanishes => rw [vanishes, otherVanishes]
  | finite _ _ _ _ _ _ nearest =>
    cases otherNearest with
    | finite _ _ _ _ _ _ otherNearest => rw [nearest, otherNearest]

/-- **Many digits, and that more follow, decide how to round.** -/
theorem rounded_eq_of_between {mantissa : Nat} (exponent : ℤ) (many : 2 ^ 53 ≤ mantissa)
    (above : mantissa < v / 2 ^ exponent) (below : v / 2 ^ exponent < mantissa + 1)
    (otherAbove : mantissa < w / 2 ^ exponent) (otherBelow : w / 2 ^ exponent < mantissa + 1) :
    rounded v = rounded w := by
  -- One digit less, so that both numbers lie on the same side of the middle.
  let accuracy : Accuracy := .inexact (if mantissa % 2 = 0 then .lt else .gt)
  have truncates : ∀ {u : ℝ}, mantissa < u / 2 ^ exponent → u / 2 ^ exponent < mantissa + 1 →
      Truncates (mantissa / 2) accuracy (u / 2 ^ (exponent + 1)) := by
    intro u above below
    have half : u / 2 ^ (exponent + 1) = u / 2 ^ exponent / 2 := by
      rw [zpow_add_one₀ (by norm_num), div_div]
    have whole : (mantissa : ℝ) = 2 * ((mantissa / 2 : ℕ) : ℝ) + ((mantissa % 2 : ℕ) : ℝ) := by
      exact_mod_cast (Nat.div_add_mod mantissa 2).symm
    rw [half]
    rcases Nat.mod_two_eq_zero_or_one mantissa with even | odd
    · rw [even, Nat.cast_zero, add_zero] at whole
      refine ⟨by linarith, by linarith, ?_⟩
      rw [if_pos even]
      show _ < _
      linarith
    · rw [odd, Nat.cast_one] at whole
      refine ⟨by linarith, by linarith, ?_⟩
      rw [if_neg (by omega)]
      show _ < _
      linarith
  have enough : 2 ^ 52 ≤ mantissa / 2 ∨ exponent + 1 ≤ -1074 := Or.inl (by omega)
  exact (nearestMagnitude_roundWithAccuracy .positive enough (truncates above below)).rounded_eq
    (nearestMagnitude_roundWithAccuracy .positive enough (truncates otherAbove otherBelow))

/-- Numbers of one sign that are rounded alike have the same double. -/
theorem Rounds.congr {x : Float} {sign : Sign} (rounds : Rounds x (signed sign v))
    (same : rounded v = rounded w) (positive : 0 < v) (otherPositive : 0 < w) :
    Rounds x (signed sign w) := by
  have same : rounded (signed sign v) = rounded (signed sign w) := by
    rw [rounded_signed, rounded_signed, same]
  have negative_iff : signed sign v < 0 ↔ signed sign w < 0 := by
    cases sign with
    | positive => exact iff_of_false positive.not_gt otherPositive.not_gt
    | negative => exact iff_of_true (neg_lt_zero.mpr positive) (neg_lt_zero.mpr otherPositive)
  obtain ⟨finite, infinite⟩ := rounds
  rw [same] at finite infinite
  refine ⟨finite, fun large => ?_⟩
  rw [infinite large]
  simp only [negative_iff]

/-- A quotient in units of its last digit is its whole part and the rest. -/
theorem ratio_div_unit (n shift : Nat) {d : Nat} (positive : 0 < d) :
    (n : ℝ) / d / 2 ^ (-shift : ℤ) =
      (n * 2 ^ shift / d : ℕ) + ((n * 2 ^ shift % d : ℕ) : ℝ) / d := by
  have scale : (0 : ℝ) < d := by exact_mod_cast positive
  have whole : ((n * 2 ^ shift : ℕ) : ℝ) =
      d * (n * 2 ^ shift / d : ℕ) + (n * 2 ^ shift % d : ℕ) := by
    exact_mod_cast (Nat.div_add_mod _ d).symm
  rw [zpow_neg, zpow_natCast, div_inv_eq_mul, div_mul_eq_mul_div, div_eq_iff scale.ne',
    add_mul, div_mul_cancel₀ _ scale.ne', mul_comm _ (d : ℝ), ← whole]
  push_cast
  rfl

/-- One digit more is half the unit. -/
theorem half_unit_div_unit (digits : ℝ) (shift : Nat) :
    digits * 2 ^ (-(shift : ℤ) - 1) / 2 ^ (-shift : ℤ) = digits / 2 := by
  rw [zpow_sub_one₀ (by norm_num)]
  field_simp

/-- **A quotient is rounded correctly.** -/
theorem rounds_nearestRatio (negative : Bool) (n : Nat) {d : Nat} (positive : 0 < d) :
    Rounds (nearestRatio negative n d) (signed (signOf negative) (n / d)) := by
  unfold nearestRatio
  dsimp only
  generalize shift_eq : 66 + d.log2 - n.log2 = shift
  have scaled := ratio_div_unit n shift positive
  rw [Nat.shiftLeft_eq]
  generalize quotient_eq : n * 2 ^ shift / d = quotient at scaled ⊢
  generalize rest_eq : n * 2 ^ shift % d = rest at scaled ⊢
  have rounds := rounds_nearest negative (2 * quotient + if rest = 0 then 0 else 1)
    (-(shift : ℤ) - 1)
  split at rounds
  next exact =>
    have same : ((2 * quotient + 0 : ℕ) : ℝ) * 2 ^ (-(shift : ℤ) - 1) = n / d := by
      have unit : (0 : ℝ) < 2 ^ (-shift : ℤ) := by positivity
      rw [← div_left_inj' unit.ne', half_unit_div_unit, scaled, exact]
      push_cast
      ring
    rw [if_pos exact, ← same]
    exact rounds
  next inexact =>
    have scale : (0 : ℝ) < d := by exact_mod_cast positive
    have nonzero : n ≠ 0 := by
      rintro rfl
      exact inexact (by rw [← rest_eq, Nat.zero_mul, Nat.zero_mod])
    have rest_pos : (0 : ℝ) < rest := by exact_mod_cast Nat.pos_of_ne_zero inexact
    have rest_lt : (rest : ℝ) / d < 1 := by
      rw [div_lt_one scale, ← rest_eq]
      exact_mod_cast Nat.mod_lt _ positive
    have many : 2 ^ 53 ≤ quotient := by
      rw [← quotient_eq]
      exact two_pow_le_quotient (k := 53) nonzero positive (by omega)
    rw [if_neg inexact]
    -- Both stand strictly between the same two multiples of the unit.
    have same := rounded_eq_of_between (v := ((2 * quotient + 1 : ℕ) : ℝ) * 2 ^ (-(shift : ℤ) - 1))
      (w := (n : ℝ) / d) (-shift) many ?_ ?_ ?_ ?_
    · exact rounds.congr same (by positivity) (by positivity)
    · rw [half_unit_div_unit]
      push_cast
      linarith
    · rw [half_unit_div_unit]
      push_cast
      linarith
    · rw [scaled]
      exact lt_add_of_pos_right _ (div_pos rest_pos scale)
    · rw [scaled]
      linarith

end Nearest

end IncompleteBeta.Binary64
