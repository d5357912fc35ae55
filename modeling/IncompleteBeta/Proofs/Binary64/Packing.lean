/-
**Doubles taken apart and put together.**

A double is unpacked into a sign, a mantissa and an exponent, and every result is packed again.

* `Canonical`: the form in which doubles are unpacked;
* `canonical_unpack`: doubles unpack to this form;
* `unpack_pack`: what has this form is packed without loss;
* `unpack_pack_overflow`: an exponent that is too large packs to infinity;
* `pack_unpack`: nothing is lost in unpacking either.
-/

import Mathlib

namespace IncompleteBeta.Binary64

open Float.Model (UnpackedFloat Format)
open Float.Model.UnpackedFloat (Sign pack unpack packComponents packedZero packedInfinity packedNaN
  unpackSign unpackExponent unpackMantissa unpackMantissa_packComponents
  unpackExponent_packComponents)

/-- **The form in which doubles are unpacked**: a mantissa of 53 digits, or of fewer over the least
exponent. -/
inductive Canonical : UnpackedFloat → Prop where
  | notANumber : Canonical .notANumber
  | infinity (sign : Sign) : Canonical (.infinity sign)
  | zero (sign : Sign) : Canonical (.zero sign)
  | finite (sign : Sign) (mantissa : Nat) (exponent : Int) (positive : 0 < mantissa)
      (digits : mantissa < 2 ^ 53) (full : 2 ^ 52 ≤ mantissa ∨ exponent = -1074)
      (least : -1074 ≤ exponent) (most : exponent ≤ 971) :
      Canonical (.finite sign mantissa exponent positive)

/-! ### Unpacking -/

/-- The leading digit, which is not stored, in front of the others. -/
theorem toNat_leading_append (stored : BitVec 52) :
    (1#1 ++ stored).toNat = 2 ^ 52 + stored.toNat := by
  rw [BitVec.toNat_append, ← Nat.shiftLeft_add_eq_or_of_lt stored.isLt]
  rfl

theorem canonical_unpack (bits : BitVec 64) : Canonical (unpack Format.binary64 bits) := by
  have stored_lt : (@unpackMantissa Format.binary64 bits).toNat < 2 ^ 52 :=
    (@unpackMantissa Format.binary64 bits).isLt
  have field_lt : (@unpackExponent Format.binary64 bits).toNat < 2 ^ 11 :=
    (@unpackExponent Format.binary64 bits).isLt
  unfold unpack
  dsimp only
  split
  · split
    · exact .infinity _
    · exact .notANumber
  next notTop =>
    have below_top : (@unpackExponent Format.binary64 bits).toNat ≠ 2047 := by
      intro top
      exact notTop (BitVec.eq_of_toNat_eq (by rw [top]; rfl))
    split
    next zero =>
      split
      · exact .zero _
      · refine .finite _ _ _ _ (by omega) (Or.inr ?_) ?_ ?_
        all_goals
          rw [zero]
          decide
    next nonzero =>
      have above_zero : (@unpackExponent Format.binary64 bits).toNat ≠ 0 := by
        intro none
        exact nonzero (BitVec.eq_of_toNat_eq none)
      have bias : ((Format.binary64.exponentBias : ℕ) : ℤ) = 1023 := rfl
      refine .finite _ _ _ _ ?_ (Or.inl ?_) ?_ ?_
      · rw [toNat_leading_append]
        omega
      · rw [toNat_leading_append]
        omega
      · rw [bias]
        omega
      · rw [bias]
        omega

/-! ### Packing -/

theorem unpackSign_packComponents {format : Format} (sign : Sign)
    (exponent : BitVec format.exponentBits) (stored : BitVec format.mantissaBitsWithoutImplicit) :
    unpackSign (packComponents format sign exponent stored) = sign.toBitVec := by
  unfold unpackSign packComponents
  ext place inside
  obtain rfl : place = 0 := by omega
  simp [BitVec.getElem_append, BitVec.getLsbD_append]

theorem ofBitVec_toBitVec (sign : Sign) : Sign.ofBitVec sign.toBitVec = sign := by
  cases sign <;> rfl

section Parts

variable (sign : Sign) {exponent : BitVec 11} (stored : BitVec 52)

/-- The parts of a double are what it was composed of. -/
theorem unpack_packComponents (exponent : BitVec 11) :
    unpack Format.binary64 (packComponents Format.binary64 sign exponent stored) =
      if exponent = -1#11 then if stored = 0#52 then .infinity sign else .notANumber
      else if exponent = 0#11 then
        if zero : stored = 0#52 then .zero sign
        else .finite sign stored.toNat (-1074)
          (Nat.pos_of_ne_zero fun none => zero (BitVec.eq_of_toNat_eq none))
      else .finite sign (2 ^ 52 + stored.toNat) ((exponent.toNat : Int) - 1075) (by omega) := by
  unfold unpack
  simp only [unpackExponent_packComponents, unpackMantissa_packComponents,
    unpackSign_packComponents, ofBitVec_toBitVec]
  split
  · rfl
  · split
    next zero =>
      subst zero
      rfl
    next nonzero =>
      congr 1
      exact toNat_leading_append stored

theorem unpack_packedInfinity :
    unpack Format.binary64 (packedInfinity Format.binary64 sign) = .infinity sign :=
  unpack_packComponents sign 0#52 (-1#11)

theorem unpack_packedNaN :
    unpack Format.binary64 (packedNaN Format.binary64) = .notANumber :=
  unpack_packComponents .positive (1#52 <<< 51) (-1#11)

theorem unpack_packedZero :
    unpack Format.binary64 (packedZero Format.binary64 sign) = .zero sign :=
  unpack_packComponents sign 0#52 0#11

/-- The least exponent field: the stored digits are all there are. -/
theorem unpack_subnormal (positive : 0 < stored.toNat) :
    unpack Format.binary64 (packComponents Format.binary64 sign 0#11 stored) =
      .finite sign stored.toNat (-1074) positive := by
  have nonzero : stored ≠ 0#52 := by
    rintro rfl
    exact absurd positive (lt_irrefl 0)
  rw [unpack_packComponents, if_neg (by decide), if_pos rfl, dif_neg nonzero]

/-- Any other exponent field: a leading digit stands in front of the stored ones. -/
theorem unpack_normal (above : exponent ≠ 0#11) (below : exponent ≠ -1#11) :
    unpack Format.binary64 (packComponents Format.binary64 sign exponent stored) =
      .finite sign (2 ^ 52 + stored.toNat) ((exponent.toNat : Int) - 1075) (by omega) := by
  rw [unpack_packComponents, if_neg below, if_neg above]

end Parts

/-- **An exponent that is too large packs to infinity.** -/
theorem unpack_pack_overflow {sign : Sign} {mantissa : Nat} {exponent : Int}
    (positive : 0 < mantissa) (large : 971 < exponent) :
    unpack Format.binary64 (pack Format.binary64 (.finite sign mantissa exponent positive)) =
      .infinity sign := by
  have bias : ((Format.binary64.exponentBias : ℕ) : ℤ) = 1023 := rfl
  unfold pack
  dsimp only
  rw [bias, if_pos (by omega)]
  exact unpack_packedInfinity sign

/-- **What has the form of doubles is packed without loss.** -/
theorem unpack_pack {unpacked : UnpackedFloat} (canonical : Canonical unpacked) :
    unpack Format.binary64 (pack Format.binary64 unpacked) = unpacked := by
  cases canonical with
  | notANumber => exact unpack_packedNaN
  | infinity sign => exact unpack_packedInfinity sign
  | zero sign => exact unpack_packedZero sign
  | finite sign mantissa exponent positive digits full least most =>
    have bias : ((Format.binary64.exponentBias : ℕ) : ℤ) = 1023 := rfl
    have width : Format.binary64.mantissaBits = 53 := rfl
    unfold pack
    dsimp only
    rw [bias, width, if_neg (by omega)]
    rcases lt_or_ge mantissa (2 ^ 52) with few | many
    · have short : mantissa.log2 < 52 := (Nat.log2_lt positive.ne').mpr few
      have stored : (BitVec.ofNat 52 mantissa).toNat = mantissa := by
        rw [BitVec.toNat_ofNat, Nat.mod_eq_of_lt few]
      rw [if_neg (by omega), unpack_subnormal sign _ (by rw [stored]; exact positive)]
      congr 1
      omega
    · have long : mantissa.log2 = 52 := by
        rw [Nat.log2_eq_iff positive.ne']
        exact ⟨many, digits⟩
      have field : (BitVec.ofNat 11 (exponent + 1023 + (52 : ℕ)).toNat).toNat =
          (exponent + 1075).toNat := by
        rw [BitVec.toNat_ofNat]
        omega
      have stored : (BitVec.ofNat 52 mantissa).toNat = mantissa - 2 ^ 52 := by
        rw [BitVec.toNat_ofNat]
        omega
      rw [if_pos (by omega), unpack_normal]
      · congr 1
        · rw [stored]
          omega
        · rw [field]
          omega
      · intro zero
        have none : (exponent + 1075).toNat = 0 := by
          rw [← field, zero]
          rfl
        omega
      · intro top
        have all : (exponent + 1075).toNat = 2047 := by
          rw [← field, top]
          rfl
        omega

/-! ### Packing again -/

theorem toBitVec_ofBitVec (bit : BitVec 1) : (Sign.ofBitVec bit).toBitVec = bit := by
  revert bit
  decide

/-- Bits are composed of a sign, an exponent and stored digits. -/
theorem packComponents_unpack (bits : BitVec 64) :
    packComponents Format.binary64 (Sign.ofBitVec (@unpackSign Format.binary64 bits))
      (@unpackExponent Format.binary64 bits) (@unpackMantissa Format.binary64 bits) = bits := by
  simp only [packComponents, toBitVec_ofBitVec, unpackSign, unpackExponent, unpackMantissa,
    BitVec.extractLsb]
  ext place inside
  grind

/-- **Nothing is lost in unpacking**, save for what a number that is none carries. -/
theorem pack_unpack {bits : BitVec 64} (valid : Format.binary64.Valid bits) :
    pack Format.binary64 (unpack Format.binary64 bits) = bits := by
  have composed := packComponents_unpack bits
  have nan := valid.eq_packedNaN
  generalize Sign.ofBitVec (@unpackSign Format.binary64 bits) = sign at composed
  generalize @unpackExponent Format.binary64 bits = exponent at composed nan
  generalize @unpackMantissa Format.binary64 bits = stored at composed nan
  have bias : ((Format.binary64.exponentBias : ℕ) : ℤ) = 1023 := rfl
  have width : Format.binary64.mantissaBits = 53 := rfl
  have stored_lt : stored.toNat < 2 ^ 52 := stored.isLt
  have field_lt : exponent.toNat < 2 ^ 11 := exponent.isLt
  have same := unpack_packComponents sign stored exponent
  rw [composed] at same
  rw [same]
  split
  next top =>
    split
    next zero =>
      rw [← composed, top, zero]
      rfl
    next payload => exact (nan top payload).symm
  next notTop =>
    split
    next least =>
      split
      next zero =>
        rw [← composed, least, zero]
        rfl
      next nonzero =>
        have positive : 0 < stored.toNat :=
          Nat.pos_of_ne_zero fun none => nonzero (BitVec.eq_of_toNat_eq none)
        have short : stored.toNat.log2 < 52 := (Nat.log2_lt positive.ne').mpr stored_lt
        unfold pack
        dsimp only
        rw [bias, width, if_neg (by omega), if_neg (by omega), ← composed, least]
        congr 1
        exact BitVec.eq_of_toNat_eq ((BitVec.toNat_ofNat _ _).trans (Nat.mod_eq_of_lt stored_lt))
    next normal =>
      have below_top : exponent.toNat ≠ 2047 := by
        intro top
        exact notTop (BitVec.eq_of_toNat_eq (by rw [top]; rfl))
      have long : (2 ^ 52 + stored.toNat).log2 = 52 := by
        rw [Nat.log2_eq_iff (by omega)]
        omega
      unfold pack
      dsimp only
      rw [bias, width, if_neg (by omega), if_pos (by omega), ← composed]
      congr 1
      · refine BitVec.eq_of_toNat_eq ((BitVec.toNat_ofNat _ _).trans ?_)
        omega
      · refine BitVec.eq_of_toNat_eq ((BitVec.toNat_ofNat _ _).trans ?_)
        omega

end IncompleteBeta.Binary64
