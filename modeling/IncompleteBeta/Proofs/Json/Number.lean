/-
**What is read where a double is written.**

A double is written by its shortest digits. The reader takes these digits, but the double that it
makes of them need not be the one that was written: `reread?` tells which one it is.

* `Decimal.written`: the parts of the number text of a decimal number;
* `decimalText_eq`: the text is made of these parts;
* `reread?`: what the text of a double is read as, unless that is beyond the finite doubles;
* **`readNumber_floatText`**: the text of a finite double is read as that, whatever follows;
* **`ReadsBack`**: the doubles whose own text is read as themselves.
-/

import IncompleteBeta.Proofs.Json.Lexeme

namespace IncompleteBeta

open Json (NumberText IsWhole fractionText exponentPartText NumberEnd isWhole_toDigits)

namespace Decimal

/-- The only decimal number without a leading digit is written as `0 · 10 ^ 0`. -/
def Normal (d : Decimal) : Prop := d.coefficient = 0 → d.exponent = 0

/-- **The parts of the number text of a decimal number**, without its sign. -/
def written (d : Decimal) : NumberText :=
  if Layout.json.positional d.leadingExponent then
    let whole := d.leadingExponent + 1
    if whole ≤ 0 then ⟨['0'], List.replicate (-whole).toNat '0' ++ d.digits, none⟩
    else if d.digits.length ≤ whole.toNat then
      ⟨d.digits ++ List.replicate (whole.toNat - d.digits.length) '0', ['0'], none⟩
    else ⟨d.digits.take whole.toNat, d.digits.drop whole.toNat, none⟩
  else ⟨d.digits.take 1, d.digits.drop 1, some d.leadingExponent⟩

section Written

variable (d : Decimal)

theorem digits_ne_nil : d.digits ≠ [] := Nat.toDigits_ne_nil

theorem decimalText_json : Layout.json.decimalText d =
    if Layout.json.positional d.leadingExponent then
      positionalText true d.digits (d.leadingExponent + 1)
    else scientificText true d.digits d.leadingExponent := rfl

/-- **The text of a decimal number is made of its parts.** -/
theorem decimalText_eq : Layout.json.decimalText d =
    d.written.whole ++ fractionText d.written.fraction ++ exponentPartText d.written.exponent := by
  have nonempty := d.digits_ne_nil
  rw [decimalText_json]
  unfold written
  split
  next =>
    dsimp only [positionalText]
    split
    next => simp [fractionText, exponentPartText, nonempty]
    next =>
      split
      next => simp [fractionText, exponentPartText]
      next long =>
        have more : d.digits.drop (d.leadingExponent + 1).toNat ≠ [] := by
          rw [ne_eq, List.drop_eq_nil_iff]
          exact long
        simp [fractionText, exponentPartText, more]
  next =>
    dsimp only [scientificText, fractionText, exponentPartText]
    simp only [List.drop_eq_nil_iff]

/-- No decimal number is written like an integer. -/
theorem written_not_integer :
    (d.written.fraction.isEmpty && d.written.exponent.isNone) = false := by
  have nonempty := d.digits_ne_nil
  unfold written
  split
  next =>
    dsimp only
    split
    next => simp [nonempty]
    next =>
      split
      next => rfl
      next long =>
        have more : d.digits.drop (d.leadingExponent + 1).toNat ≠ [] := by
          rw [ne_eq, List.drop_eq_nil_iff]
          exact long
        simp [more]
  next => simp

theorem allDigits_fraction : AllDigits d.written.fraction := by
  have all : AllDigits d.digits := allDigits_toDigits _
  unfold written
  split
  next =>
    dsimp only
    split
    next => exact allDigits_append (allDigits_zeros _) all
    next =>
      split
      next => exact allDigits_zeros 1
      next => exact allDigits_drop all _
  next => exact allDigits_drop all _

variable {d}

/-- Leading digits of a number that has more of them do not begin with a zero. -/
theorem isWhole_of_leading (others : List Char) (positive : 0 < d.coefficient) {whole : List Char}
    (leading : whole <+: d.digits ++ others) (nonempty : whole ≠ []) (all : AllDigits whole) :
    IsWhole whole := by
  obtain ⟨c, rest, digits, nonzero⟩ := toDigits_eq_cons positive
  refine ⟨all, nonempty, fun zero => ?_⟩
  cases whole with
  | nil => exact absurd rfl nonempty
  | cons first tail =>
    cases zero
    have same : d.digits = c :: rest := digits
    rw [same, List.cons_append, List.cons_prefix_cons] at leading
    exact absurd leading.1.symm nonzero

theorem isWhole_written (normal : d.Normal) : IsWhole d.written.whole := by
  have all : AllDigits d.digits := allDigits_toDigits _
  have nonempty := d.digits_ne_nil
  have zero : IsWhole ['0'] := ⟨allDigits_zeros 1, by simp, fun _ => rfl⟩
  rcases Nat.eq_zero_or_pos d.coefficient with none | positive
  · have digits : d.digits = ['0'] := by rw [Decimal.digits, none, toDigits_zero]
    have leading : d.leadingExponent = 0 := by
      rw [leadingExponent, digits, normal none]
      rfl
    simp [written, leading, digits, Layout.json, zero]
  · unfold written
    split
    next =>
      dsimp only
      split
      next => exact zero
      next above =>
        split
        next =>
          exact isWhole_of_leading _ positive List.prefix_rfl (by simp [nonempty])
            (allDigits_append all (allDigits_zeros _))
        next =>
          refine isWhole_of_leading [] positive ?_ ?_ (allDigits_take all _)
          · rw [List.append_nil]
            exact List.take_prefix _ _
          · simp only [ne_eq, List.take_eq_nil_iff, nonempty, or_false]
            omega
    next =>
      refine isWhole_of_leading [] positive ?_ (by simp [nonempty])
        (allDigits_take all _)
      rw [List.append_nil]
      exact List.take_prefix _ _

end Written

theorem dropZeros_coefficient_pos (count : Nat) {d : Decimal} (positive : 0 < d.coefficient) :
    0 < (d.dropZeros count).coefficient := by
  induction count generalizing d with
  | zero => exact positive
  | succ count ih =>
    unfold dropZeros
    split
    · exact ih (by dsimp only; omega)
    · exact positive

theorem normal_reduced (d : Decimal) : d.reduced.Normal := by
  unfold reduced
  split
  next => exact fun _ => rfl
  next nonzero =>
    intro zero
    have positive := dropZeros_coefficient_pos d.coefficient.log2 (Nat.pos_of_ne_zero nonzero)
    omega

theorem normal_shortest (tie : Tie) (x : Float) : (shortestDecimal tie x).Normal := by
  unfold shortestDecimal
  split
  · exact fun _ => rfl
  · exact normal_reduced _

end Decimal

namespace Json

/-- **What the text of a finite double is read as**, unless that is beyond the finite doubles. -/
def reread? (x : Float) : Option Float :=
  (shortestDecimal .toEven x).written.decimal.scaled? (Binary64.signBit x)

/-- What a reader makes of the text of a finite double. -/
def reread (x : Float) : Except Fault Float := (reread? x).elim (.error .malformed) .ok

theorem floatText_eq {x : Float} (finite : x.isFinite = true) :
    floatText x = (if Binary64.signBit x then ['-'] else [])
      ++ Layout.json.decimalText (shortestDecimal .toEven x) := if_pos finite

theorem unsignedNumber_written (negative : Bool) {d : Decimal} (normal : d.Normal)
    {rest : List Char} (ends : NumberEnd rest) :
    unsignedNumber negative (Layout.json.decimalText d ++ rest) =
      ((d.written.decimal.scaled? negative).elim (.error .malformed) Except.ok).map
        fun y => (.float y, rest) := by
  have written := numberText_written d.written.exponent (Decimal.isWhole_written normal)
    d.allDigits_fraction ends
  have meaning : d.written.meaning? negative =
      (d.written.decimal.scaled? negative).map .float := by
    rw [NumberText.meaning?, d.written_not_integer]
    rfl
  rw [Decimal.decimalText_eq, unsignedNumber, written]
  simp only [bind, Except.bind, meaning]
  generalize d.written.decimal.scaled? negative = found
  cases found <;> rfl

/-- A number text begins with a digit. -/
theorem decimalText_eq_cons {d : Decimal} (normal : d.Normal) :
    ∃ c rest, Layout.json.decimalText d = c :: rest ∧ c.isDigit = true := by
  obtain ⟨c, rest, leading, digit⟩ := (Decimal.isWhole_written normal).eq_cons
  rw [Decimal.decimalText_eq, leading]
  exact ⟨c, _, rfl, digit⟩

/-- **The text of a finite double is read as `reread?` tells**, whatever follows. -/
theorem readNumber_floatText {x : Float} (finite : x.isFinite = true) {rest : List Char}
    (ends : NumberEnd rest) :
    readNumber (floatText x ++ rest) = (reread x).map fun y => (.float y, rest) := by
  have normal := Decimal.normal_shortest .toEven x
  rw [floatText_eq finite, reread, reread?]
  generalize shortestDecimal .toEven x = d at normal ⊢
  generalize Binary64.signBit x = negative
  rw [← unsignedNumber_written negative normal ends]
  cases negative with
  | true => rfl
  | false =>
    obtain ⟨c, others, leading, digit⟩ := decimalText_eq_cons normal
    rw [if_neg Bool.false_ne_true, List.nil_append, leading, List.cons_append,
      readNumber_of_digit digit]

/-- **The doubles whose own text is read as themselves.** -/
def ReadsBack (x : Float) : Prop := readNumber (floatText x) = .ok (.float x, [])

theorem readsBack_iff {x : Float} (finite : x.isFinite = true) :
    ReadsBack x ↔ reread x = .ok x := by
  have alone := readNumber_floatText finite numberEnd_nil
  rw [List.append_nil] at alone
  rw [ReadsBack, alone]
  cases reread x with
  | ok y => simp [Except.map]
  | error fault => simp [Except.map]

end Json

end IncompleteBeta
