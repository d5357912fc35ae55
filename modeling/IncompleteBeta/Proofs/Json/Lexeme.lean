/-
**The smallest pieces of a JSON text, written and read.**

* `skipSpace_blank`: white space in front of a text does not matter;
* **`stringRest_stringText`**: every string is read back from between its quotes;
* `numberText_written`: a number that is written with the parts of JSON numbers is read with these
  parts;
* **`readNumber_integerText`**: every integer of its word is read back.
-/

import IncompleteBeta.Proofs.Decimal.Digits
import IncompleteBeta.Proofs.Json.Spacing
import Mathlib.Algebra.Group.Int.Defs
import Mathlib.Algebra.Group.Nat.Defs
import Mathlib.Tactic.SplitIfs

namespace IncompleteBeta.Json

/-! ### White space and names -/

section Space

variable {before text : List Char} {c : Char}

theorem skipSpace_blank (blank : Blank before) : skipSpace (before ++ text) = skipSpace text :=
  List.dropWhile_append_of_pos blank

theorem skipSpace_cons (token : isSpace c = false) : skipSpace (c :: text) = c :: text :=
  List.dropWhile_cons_of_neg (by simp [token])

/-- White space in front of a token. -/
theorem skipSpace_token (blank : Blank before) (token : isSpace c = false) :
    skipSpace (before ++ c :: text) = c :: text := by
  rw [skipSpace_blank blank, skipSpace_cons token]

theorem literal_append (wanted rest : List Char) : literal wanted (wanted ++ rest) = .ok rest := by
  induction wanted with
  | nil => rfl
  | cons c wanted ih => rw [List.cons_append, literal, if_pos rfl, ih]

end Space

/-! ### Strings -/

section Strings

variable {read rest : List Char}

theorem hexValue?_hexDigit {n : Nat} (small : n < 16) : hexValue? (hexDigit n) = some n := by
  decide +revert

theorem utf8Size_hexDigit {n : Nat} (small : n < 16) : (hexDigit n).utf8Size = 1 := by
  decide +revert

/-- A control character is read back from its number in four digits. -/
theorem stringFrom_unit {c : Char} (control : c.toNat < 32) :
    stringFrom false .plain read
        ('\\' :: 'u' :: '0' :: '0' :: hexDigit (c.toNat / 16) :: hexDigit (c.toNat % 16) :: rest) =
      stringFrom false .plain (c :: read) rest := by
  have high := hexValue?_hexDigit (n := c.toNat / 16) (by omega)
  have low := hexValue?_hexDigit (n := c.toNat % 16) (by omega)
  have holds : holdsUnit
      ('0' :: '0' :: hexDigit (c.toNat / 16) :: hexDigit (c.toNat % 16) :: rest) = true := by
    have size : '0'.utf8Size = 1 := rfl
    simp [holdsUnit, utf8Size_hexDigit (n := c.toNat / 16) (by omega),
      utf8Size_hexDigit (n := c.toNat % 16) (by omega), size]
  have number : 16 * (c.toNat / 16) + c.toNat % 16 = c.toNat := by omega
  have plain : afterUnit false none c.toNat = some (.plain, [c]) := by
    simp only [afterUnit, Bool.false_eq_true, if_false, Char.ofNat_toNat]
    rw [if_neg (by omega), if_neg (by omega)]
  have zero : hexValue? '0' = some 0 := by decide
  simp [stringFrom, holds, zero, high, low, number, plain]

/-- **A character is read back from its written form.** -/
theorem stringFrom_escapedChar (c : Char) :
    stringFrom false .plain read (escapedChar c ++ rest) =
      stringFrom false .plain (c :: read) rest := by
  unfold escapedChar
  split_ifs with quote slash back feed line carriage tab control
  · subst quote
    simp [stringFrom, unescaped?]
  · subst slash
    simp [stringFrom, unescaped?]
  · subst back
    simp [stringFrom, unescaped?]
  · subst feed
    simp [stringFrom, unescaped?]
  · subst line
    simp [stringFrom, unescaped?]
  · subst carriage
    simp [stringFrom, unescaped?]
  · subst tab
    simp [stringFrom, unescaped?]
  · exact stringFrom_unit control
  · simp [stringFrom, quote, slash, control]

theorem stringFrom_escaped (text : List Char) :
    stringFrom false .plain read (text.flatMap escapedChar ++ '\"' :: rest) =
      .ok (String.ofList (read.reverse ++ text), rest) := by
  induction text generalizing read with
  | nil => simp [stringFrom]
  | cons c text ih =>
    rw [List.flatMap_cons, List.append_assoc, stringFrom_escapedChar, ih, List.reverse_cons,
      List.append_assoc]
    rfl

/-- **Every string is read back from between its quotes.** -/
theorem stringRest_stringText (s : String) (rest : List Char) :
    ∃ text, stringText s ++ rest = '\"' :: text ∧ stringRest text = .ok (s, rest) := by
  refine ⟨s.toList.flatMap escapedChar ++ '\"' :: rest, ?_, ?_⟩
  · simp [stringText]
  · rw [stringRest, stringFrom_escaped, List.reverse_nil, List.nil_append, String.ofList_toList]

end Strings

/-! ### Numbers -/

/-- **A text that does not go on with a number.** -/
def NumberEnd (rest : List Char) : Prop :=
  ∀ c ∈ rest.head?, c.isDigit = false ∧ c ≠ '.' ∧ c ≠ 'e' ∧ c ≠ 'E'

theorem numberEnd_nil : NumberEnd [] := by simp [NumberEnd]

theorem numberEnd_cons {c : Char} {rest : List Char} (digit : c.isDigit = false) (point : c ≠ '.')
    (lower : c ≠ 'e') (upper : c ≠ 'E') : NumberEnd (c :: rest) := by
  rintro d inside
  cases inside
  exact ⟨digit, point, lower, upper⟩

theorem NumberEnd.digitsEnd {rest : List Char} (ends : NumberEnd rest) : DigitsEnd rest :=
  fun c inside => (ends c inside).1

/-- White space ends a number, and so does what ends one itself after it. -/
theorem numberEnd_blank {before rest : List Char} (blank : Blank before) (ends : NumberEnd rest) :
    NumberEnd (before ++ rest) := by
  cases before with
  | nil => exact ends
  | cons c before =>
    have space := blank c List.mem_cons_self
    simp only [isSpace, Bool.or_eq_true, decide_eq_true_eq] at space
    rcases space with ((rfl | rfl) | rfl) | rfl <;>
      exact numberEnd_cons (by decide) (by decide) (by decide) (by decide)

/-- The digits before a point as JSON has them. -/
def IsWhole (whole : List Char) : Prop :=
  AllDigits whole ∧ whole ≠ [] ∧ (whole.head? = some '0' → whole = ['0'])

/-- A point and the digits after it, if there are any. -/
def fractionText (fraction : List Char) : List Char :=
  if fraction = [] then [] else '.' :: fraction

/-- An exponent with its letter and its sign, if there is one. -/
def exponentPartText : Option Int → List Char
  | none => []
  | some e => 'e' :: exponentText true e

theorem isWhole_toDigits (n : Nat) : IsWhole (Nat.toDigits 10 n) := by
  refine ⟨allDigits_toDigits n, Nat.toDigits_ne_nil, fun zero => ?_⟩
  rcases Nat.eq_zero_or_pos n with rfl | positive
  · rfl
  · obtain ⟨c, rest, leading, nonzero⟩ := toDigits_eq_cons positive
    rw [leading] at zero
    cases zero
    exact absurd rfl nonzero

section Parts

variable {whole fraction rest : List Char}

theorem IsWhole.eq_cons (is : IsWhole whole) :
    ∃ c others, whole = c :: others ∧ c.isDigit = true := by
  obtain ⟨all, nonempty, -⟩ := is
  obtain ⟨c, others, rfl⟩ := List.exists_cons_of_ne_nil nonempty
  exact ⟨c, others, rfl, all c List.mem_cons_self⟩

theorem wholeDigits_append (is : IsWhole whole) (ends : DigitsEnd rest) :
    wholeDigits (whole ++ rest) = .ok (whole, rest) := by
  obtain ⟨all, nonempty, zero⟩ := is
  have short : ¬ (whole.head? = some '0' ∧ 1 < whole.length) := by
    rintro ⟨first, long⟩
    rw [zero first] at long
    exact absurd long (by decide)
  simp only [wholeDigits, digitRun_append all ends, List.isEmpty_iff, nonempty, if_false, short]

theorem fractionDigits_append (all : AllDigits fraction) (ends : DigitsEnd rest)
    (point : ∀ c ∈ rest.head?, c ≠ '.') :
    fractionDigits (fractionText fraction ++ rest) = .ok (fraction, rest) := by
  unfold fractionText
  split
  next empty =>
    subst empty
    cases rest with
    | nil => rfl
    | cons c rest =>
      have other := point c rfl
      rw [List.nil_append]
      unfold fractionDigits
      split
      next same => simp_all
      next => rfl
  next nonempty =>
    simp only [List.cons_append, fractionDigits, digitRun_append all ends, List.isEmpty_iff,
      nonempty, if_false]

theorem exponentPart_append (exponent : Option Int) (ends : NumberEnd rest) :
    exponentPart (exponentPartText exponent ++ rest) = .ok (exponent, rest) := by
  cases exponent with
  | none =>
    cases rest with
    | nil => rfl
    | cons c rest =>
      obtain ⟨-, -, lower, upper⟩ := ends c rfl
      simp [exponentPartText, exponentPart, lower, upper]
  | some e =>
    have run := digitRun_append (allDigits_toDigits e.natAbs) ends.digitsEnd
    have nonempty : (Nat.toDigits 10 e.natAbs).isEmpty = false := by
      simp [Nat.toDigits_ne_nil]
    by_cases negative : e < 0
    · have value : -((digitsValue 0 (Nat.toDigits 10 e.natAbs) : Nat) : Int) = e := by
        rw [digitsValue_toDigits]
        omega
      simp [exponentPartText, exponentPart, exponentText, takeSign, negative, run, nonempty, value]
    · have value : ((digitsValue 0 (Nat.toDigits 10 e.natAbs) : Nat) : Int) = e := by
        rw [digitsValue_toDigits]
        omega
      simp [exponentPartText, exponentPart, exponentText, takeSign, negative, run, nonempty, value]

/-- **A number that is written with the parts of JSON numbers is read with these parts.** -/
theorem numberText_written (exponent : Option Int) (is : IsWhole whole) (all : AllDigits fraction)
    (ends : NumberEnd rest) :
    numberText (whole ++ fractionText fraction ++ exponentPartText exponent ++ rest) =
      .ok (⟨whole, fraction, exponent⟩, rest) := by
  have marked : ∀ c ∈ (exponentPartText exponent ++ rest).head?, c.isDigit = false ∧ c ≠ '.' := by
    cases exponent with
    | none => exact fun c inside => ⟨(ends c inside).1, (ends c inside).2.1⟩
    | some e =>
      rintro c inside
      cases inside
      decide
  have stops : DigitsEnd (fractionText fraction ++ (exponentPartText exponent ++ rest)) := by
    unfold fractionText
    split
    next => exact fun c inside => (marked c inside).1
    next =>
      rintro c inside
      cases inside
      decide
  rw [List.append_assoc, List.append_assoc]
  simp only [numberText, wholeDigits_append is stops,
    fractionDigits_append all (fun c inside => (marked c inside).1)
      (fun c inside => (marked c inside).2), exponentPart_append exponent ends, bind, Except.bind,
    pure, Except.pure]

end Parts

/-! ### Integers -/

theorem readNumber_of_digit {c : Char} {text : List Char} (digit : c.isDigit = true) :
    readNumber (c :: text) = unsignedNumber false (c :: text) := by
  unfold readNumber
  split
  next same =>
    cases same
    exact absurd digit (by decide)
  next => rfl

/-- The digits of a magnitude, up to the least integer, mean its opposite after a sign. -/
theorem meaning_toDigits_negative {magnitude : Nat} (positive : 0 < magnitude)
    (most : magnitude ≤ 2 ^ 63) :
    (⟨Nat.toDigits 10 magnitude, [], none⟩ : NumberText).meaning? true =
      some (.integer (-magnitude)) := by
  rw [NumberText.meaning?, digitsValue_toDigits]
  exact if_pos (Bool.and_eq_true_iff.mpr ⟨decide_eq_true positive, decide_eq_true most⟩)

theorem meaning_toDigits {magnitude : Nat} (below : magnitude < 2 ^ 64) :
    (⟨Nat.toDigits 10 magnitude, [], none⟩ : NumberText).meaning? false =
      some (.integer magnitude) := by
  rw [NumberText.meaning?, digitsValue_toDigits]
  exact if_pos (decide_eq_true below)

/-- **Every integer of its word is read back.** -/
theorem readNumber_integerText {n : Int} {rest : List Char} (least : -2 ^ 63 ≤ n)
    (most : n < 2 ^ 64) (ends : NumberEnd rest) :
    readNumber (integerText n ++ rest) = .ok (.integer n, rest) := by
  have written : numberText (Nat.toDigits 10 n.natAbs ++ rest) =
      .ok (⟨Nat.toDigits 10 n.natAbs, [], none⟩, rest) := by
    have parts := numberText_written none (isWhole_toDigits n.natAbs) allDigits_nil ends
    rwa [fractionText, if_pos rfl, exponentPartText, List.append_nil, List.append_nil] at parts
  have unsigned {negative : Bool} {m : Int}
      (meaning : (⟨Nat.toDigits 10 n.natAbs, [], none⟩ : NumberText).meaning? negative =
        some (.integer m)) :
      unsignedNumber negative (Nat.toDigits 10 n.natAbs ++ rest) = .ok (.integer m, rest) := by
    simp only [unsignedNumber, written, meaning, bind, Except.bind, pure, Except.pure]
  unfold integerText
  by_cases negative : n < 0
  · rw [if_pos negative]
    have value : -((n.natAbs : Nat) : Int) = n := by omega
    have read := unsigned (meaning_toDigits_negative (by omega) (by omega))
    rwa [value] at read
  · rw [if_neg negative, List.nil_append]
    have value : ((n.natAbs : Nat) : Int) = n := by omega
    have read := unsigned (meaning_toDigits (by omega))
    rw [value] at read
    obtain ⟨c, others, leading, digit⟩ := (isWhole_toDigits n.natAbs).eq_cons
    rw [leading, List.cons_append] at read ⊢
    rwa [readNumber_of_digit digit]

end IncompleteBeta.Json
