/-
**Strings and numbers as they are spelled.**

What a reader makes of a string or a number depends on its spelling alone, not on what follows it;
and whatever it reads was spelled as a string or a number of JSON.

* **`stringFrom_quotable`**: what comes of what stands between two quotes;
* `Names`, `names_of_read`: the name that a key is read as;
* `quotable_of_read`: what is read as a string was spelled as one;
* **`numberText_spelled`**, `readNumber_numeral`: what comes of a number;
* `numeral_of_numberText`: what is read as a number was spelled as one.
-/

import IncompleteBeta.Proofs.Json.Tree
import IncompleteBeta.Proofs.Failure

namespace IncompleteBeta.Json

/-! ### Between the quotes -/

/-- The places between two characters of a string, or between the halves of a pair. -/
inductive Boundary : Place → Prop where
  | plain : Boundary .plain
  | pairSlash (lead : Nat) : Boundary (.pairSlash lead)

section Strings

variable {skipping : Bool} {place : Place} {read spelling digits text rest otherRest : List Char}
  {key : List Char} {name : String}

theorem holdsUnit_append (four : digits.length = 4) (rest : List Char) :
    holdsUnit (digits ++ rest) = true := by
  match digits, four with
  | [h₁, h₂, h₃, h₄], _ =>
    have size₁ := h₁.utf8Size_pos
    have size₂ := h₂.utf8Size_pos
    have size₃ := h₃.utf8Size_pos
    have size₄ := h₄.utf8Size_pos
    refine decide_eq_true ?_
    show 4 ≤ 0 + h₁.utf8Size + h₂.utf8Size + h₃.utf8Size + h₄.utf8Size
    omega

/-- After a code unit the reader is between two characters again, or refuses it. -/
theorem boundary_afterUnit {lead : Option Nat} {value : Nat} {characters : List Char}
    (after : afterUnit skipping lead value = some (place, characters)) : Boundary place := by
  unfold afterUnit at after
  split at after
  · cases after
    exact .plain
  · split at after
    all_goals
      split_ifs at after
      all_goals
        cases after
        constructor

/-- **Four digits are read as one code unit**, and its value settles what comes of it. -/
theorem stringFrom_digits (skipping : Bool) (lead : Option Nat) (four : digits.length = 4)
    (hexadecimal : ∀ c ∈ digits, (hexValue? c).isSome) :
    ∃ value, (afterUnit skipping lead value = none → ∀ read rest,
        stringFrom skipping (.unit lead 4 0) read (digits ++ rest) = .error .malformed) ∧
      ∀ place characters, afterUnit skipping lead value = some (place, characters) →
        ∀ read rest, stringFrom skipping (.unit lead 4 0) read (digits ++ rest) =
          stringFrom skipping place (characters ++ read) rest := by
  match digits, four with
  | [h₁, h₂, h₃, h₄], _ =>
    simp only [List.forall_mem_cons, Option.isSome_iff_exists] at hexadecimal
    obtain ⟨⟨d₁, value₁⟩, ⟨d₂, value₂⟩, ⟨d₃, value₃⟩, ⟨d₄, value₄⟩, -⟩ := hexadecimal
    refine ⟨16 * (16 * (16 * d₁ + d₂) + d₃) + d₄, fun refused read rest => ?_,
      fun place characters after read rest => ?_⟩
    · simp [stringFrom, value₁, value₂, value₃, value₄, refused]
    · simp [stringFrom, value₁, value₂, value₃, value₄, after]

/-- The outcome of a string does not depend on what follows its closing quote, and a string that is
only skipped has one. -/
structure Outcome (skipping : Bool) (place : Place) (read spelling : List Char)
    (outcome : Except Fault String) : Prop where
  reads : ∀ rest, stringFrom skipping place read (spelling ++ '\"' :: rest) =
    outcome.map fun found => (found, rest)
  skips : skipping = true → place = .plain → ∃ found, outcome = .ok found

/-- Half a pair in front refuses all but the backslash and the letter of a code unit. -/
theorem outcome_refused {lead : Nat}
    (refuses : ∀ rest, stringFrom skipping (.pairSlash lead) read (spelling ++ '\"' :: rest) =
      .error .malformed) : ∃ outcome, Outcome skipping (.pairSlash lead) read spelling outcome :=
  ⟨.error .malformed, refuses, nofun⟩

/-- A code unit and what stands behind it, where that has its outcome from any boundary on. -/
theorem outcome_unit (lead : Option Nat) (four : digits.length = 4)
    (hexadecimal : ∀ c ∈ digits, (hexValue? c).isSome)
    (others : ∀ place, Boundary place → ∀ read, ∃ outcome,
      Outcome skipping place read spelling outcome) (read : List Char) :
    ∃ outcome : Except Fault String,
      (∀ rest, stringFrom skipping (.unit lead 4 0) read (digits ++ (spelling ++ '\"' :: rest)) =
        outcome.map fun found => (found, rest)) ∧
      (skipping = true → ∃ found, outcome = .ok found) := by
  obtain ⟨value, refused, unit⟩ := stringFrom_digits skipping lead four hexadecimal
  cases after : afterUnit skipping lead value with
  | none =>
    refine ⟨.error .malformed, fun rest => refused after _ _, ?_⟩
    rintro rfl
    cases after
  | some found =>
    obtain ⟨later, characters⟩ := found
    obtain ⟨outcome, reads, skips⟩ := others later (boundary_afterUnit after) (characters ++ read)
    refine ⟨outcome, fun rest => (unit _ _ after _ _).trans (reads rest), ?_⟩
    rintro rfl
    cases after
    exact skips rfl rfl

/-- **What comes of what stands between two quotes**, from any boundary on. -/
theorem stringFrom_quotable (quotable : Quotable spelling) (skipping : Bool) (place : Place)
    (boundary : Boundary place) (read : List Char) :
    ∃ outcome, Outcome skipping place read spelling outcome := by
  induction quotable generalizing place read with
  | nil =>
    cases boundary with
    | plain => exact ⟨.ok (String.ofList read.reverse), fun rest => rfl, fun _ _ => ⟨_, rfl⟩⟩
    | pairSlash lead => exact outcome_refused fun rest => rfl
  | @plain c text printed quote slash rest ih =>
    cases boundary with
    | plain =>
      obtain ⟨outcome, reads, skips⟩ := ih .plain .plain (c :: read)
      refine ⟨outcome, fun rest => ?_, skips⟩
      rw [List.cons_append, stringFrom, if_neg quote, if_neg slash, if_neg (by omega), reads]
    | pairSlash lead =>
      refine outcome_refused fun rest => ?_
      rw [List.cons_append, stringFrom, if_neg slash]
  | @letter c d text escapes rest ih =>
    have other : c ≠ 'u' := by
      rintro rfl
      cases escapes
    cases boundary with
    | plain =>
      obtain ⟨outcome, reads, skips⟩ := ih .plain .plain (d :: read)
      refine ⟨outcome, fun rest => ?_, skips⟩
      simp [stringFrom, other, escapes, reads]
    | pairSlash lead =>
      refine outcome_refused fun rest => ?_
      simp [stringFrom, other]
  | @unit digits text four hexadecimal rest ih =>
    cases boundary with
    | plain =>
      obtain ⟨outcome, reads, skips⟩ := outcome_unit none four hexadecimal ih read
      refine ⟨outcome, fun rest => ?_, fun skipped _ => skips skipped⟩
      simp [stringFrom, holdsUnit_append four, reads]
    | pairSlash lead =>
      obtain ⟨outcome, reads, -⟩ := outcome_unit (some lead) four hexadecimal ih read
      refine ⟨outcome, fun rest => ?_, fun _ same => ?_⟩
      · simp [stringFrom, holdsUnit_append four, reads]
      · cases same

/-- A string that nobody wants is skipped, whatever its code units are. -/
theorem skipString_quotable (quotable : Quotable spelling) (rest : List Char) :
    skipString (spelling ++ '\"' :: rest) = .ok rest := by
  obtain ⟨outcome, reads, skips⟩ := stringFrom_quotable quotable true .plain .plain []
  obtain ⟨found, rfl⟩ := skips rfl rfl
  rw [skipString, reads]
  rfl

/-- **The name that a key is read as**, whatever follows its closing quote. -/
def Names (key : List Char) (name : String) : Prop :=
  ∀ rest, stringRest (key ++ '\"' :: rest) = .ok (name, rest)

theorem names_of_read (quotable : Quotable key)
    (reads : stringRest (key ++ '\"' :: rest) = .ok (name, otherRest)) :
    Names key name ∧ otherRest = rest := by
  obtain ⟨outcome, all, -⟩ := stringFrom_quotable quotable false .plain .plain []
  have here := all rest
  rw [show stringFrom false .plain [] (key ++ '\"' :: rest) = .ok (name, otherRest) from reads]
    at here
  obtain ⟨found, rfl, same⟩ := map_eq_ok.mp here.symm
  cases same
  exact ⟨all, rfl⟩

/-! ### What was read as a string -/

/-- What is left of a string at a place in it. -/
def Continues : Place → List Char → Prop
  | .plain, text => Quotable text
  | .pairSlash _, text => Quotable text
  | .escape, text => Quotable ('\\' :: text)
  | .pairLetter _, text => Quotable ('\\' :: text)
  | .unit _ left _, text => ∃ digits others, text = digits ++ others ∧
      digits.length = max left 1 ∧ (∀ c ∈ digits, (hexValue? c).isSome) ∧ Quotable others

/-- One more digit of a code unit. -/
theorem continues_digit {lead : Option Nat} {left value otherValue digit : Nat} {c : Char}
    (hexadecimal : hexValue? c = some digit) (more : 1 < left)
    (continues : Continues (.unit lead (left - 1) otherValue) text) :
    Continues (.unit lead left value) (c :: text) := by
  obtain ⟨digits, others, rfl, length, all, quotable⟩ := continues
  refine ⟨c :: digits, others, rfl, ?_, ?_, quotable⟩
  · rw [List.length_cons, length]
    omega
  · exact List.forall_mem_cons.mpr ⟨Option.isSome_of_eq_some hexadecimal, all⟩

/-- The last digit of a code unit. -/
theorem continues_last {lead : Option Nat} {left value digit : Nat} {c : Char}
    (hexadecimal : hexValue? c = some digit) (last : ¬1 < left) (quotable : Quotable text) :
    Continues (.unit lead left value) (c :: text) := by
  refine ⟨[c], text, rfl, ?_, ?_, quotable⟩
  · rw [List.length_singleton]
    omega
  · exact List.forall_mem_singleton.mpr (Option.isSome_of_eq_some hexadecimal)

/-- Four digits are left of a code unit behind its letter. -/
theorem Continues.letter {lead : Option Nat} (continues : Continues (.unit lead 4 0) text) :
    Quotable ('\\' :: 'u' :: text) := by
  obtain ⟨digits, others, rfl, length, all, quotable⟩ := continues
  exact .unit length all quotable

/-- A text that continues a place is the rest of a string from there. -/
def Closes (place : Place) (text rest : List Char) : Prop :=
  ∃ spelling, Continues place spelling ∧ text = spelling ++ '\"' :: rest

theorem Closes.cons {otherPlace : Place} {c : Char} (closes : Closes place text rest)
    (step : ∀ {spelling}, Continues place spelling → Continues otherPlace (c :: spelling)) :
    Closes otherPlace (c :: text) rest := by
  obtain ⟨spelling, continues, rfl⟩ := closes
  exact ⟨c :: spelling, step continues, rfl⟩

/-- **What was read as a string was spelled as one**, from any place in it on. -/
theorem closes_of_read (skipping : Bool) (place : Place) (read text : List Char) :
    stringFrom skipping place read text = .ok (name, rest) → Closes place text rest := by
  fun_induction stringFrom skipping place read text with
  | case2 read text =>
    rintro ⟨⟩
    exact ⟨[], .nil, rfl⟩
  | case3 read text _ ih => exact fun reads => (ih reads).cons id
  | case5 read c text quote slash printed ih =>
    exact fun reads => (ih reads).cons (.plain (Nat.not_lt.mp printed) quote slash)
  | case6 read text holds ih => exact fun reads => (ih reads).cons Continues.letter
  | case8 read c text other d escapes ih =>
    exact fun reads => (ih reads).cons (Quotable.letter escapes)
  | case11 lead left value read c text digit hexadecimal more ih =>
    exact fun reads => (ih reads).cons (continues_digit hexadecimal more)
  | case12 lead left value read c text digit hexadecimal last place characters after ih =>
    refine fun reads => (ih reads).cons fun continues => continues_last hexadecimal last ?_
    cases boundary_afterUnit after with
    | plain => exact continues
    | pairSlash => exact continues
  | case14 lead read text ih => exact fun reads => (ih reads).cons id
  | case16 lead read text holds ih => exact fun reads => (ih reads).cons Continues.letter
  | _ => exact nofun

theorem quotable_of_stringRest (reads : stringRest text = .ok (name, rest)) :
    ∃ spelling, Quotable spelling ∧ text = spelling ++ '\"' :: rest := closes_of_read _ _ _ _ reads

theorem quotable_of_skipString (skips : skipString text = .ok rest) :
    ∃ spelling, Quotable spelling ∧ text = spelling ++ '\"' :: rest := by
  obtain ⟨⟨found, rest⟩, reads, rfl⟩ := map_eq_ok.mp skips
  exact closes_of_read _ _ _ _ reads

/-- A key that names something is spelled as a string. -/
theorem Names.quotable (names : Names key name) : Quotable key := by
  obtain ⟨spelling, quotable, same⟩ := quotable_of_stringRest (names [])
  rwa [List.append_cancel_right same]

theorem Names.unique {otherName : String} (names : Names key name)
    (otherNames : Names key otherName) :
    name = otherName := by
  have same := (names []).symm.trans (otherNames [])
  cases same
  rfl

end Strings

/-! ### Literals and numbers -/

section Numbers

variable {text rest spelling whole fraction exponent : List Char}

theorem eq_of_literal {wanted : List Char} (reads : literal wanted text = .ok rest) :
    text = wanted ++ rest := by
  induction wanted generalizing text with
  | nil =>
    cases reads
    rfl
  | cons c wanted ih =>
    cases text with
    | nil => cases reads
    | cons d text =>
      rw [literal] at reads
      split_ifs at reads with same
      rw [same, ih reads, List.cons_append]

/-- What comes of an exponent, whatever does not go on with a number behind it. -/
theorem exponentPart_spelled (spelled : ExponentSpelling exponent) :
    ∃ value, ∀ rest, NumberEnd rest → exponentPart (exponent ++ rest) = .ok (value, rest) := by
  cases spelled with
  | none =>
    refine ⟨none, fun rest ends => ?_⟩
    cases rest with
    | nil => rfl
    | cons c rest =>
      obtain ⟨-, -, lower, upper⟩ := ends c rfl
      simp [exponentPart, lower, upper]
  | @some letter sign digits marked signed all nonempty =>
    have mark : (letter = 'e' || letter = 'E') = true := by
      rwa [Bool.or_eq_true, decide_eq_true_eq, decide_eq_true_eq]
    obtain ⟨negative, taken⟩ : ∃ negative, ∀ rest : List Char,
        takeSign (sign ++ (digits ++ rest)) = (negative, digits ++ rest) := by
      obtain ⟨c, others, rfl⟩ := List.exists_cons_of_ne_nil nonempty
      have digit := all c List.mem_cons_self
      simp only [List.mem_cons, List.not_mem_nil, or_false] at signed
      rcases signed with rfl | rfl | rfl
      · refine ⟨false, fun rest => ?_⟩
        rw [List.nil_append, List.cons_append, takeSign]
        · rintro otherRest ⟨⟩
          cases digit
        · rintro otherRest ⟨⟩
          cases digit
      · exact ⟨false, fun rest => rfl⟩
      · exact ⟨true, fun rest => rfl⟩
    refine ⟨some (if negative then -(digitsValue 0 digits : Int) else digitsValue 0 digits),
      fun rest ends => ?_⟩
    rw [List.cons_append, List.append_assoc, exponentPart, if_pos mark, taken]
    simp only [digitRun_append all ends.digitsEnd, List.isEmpty_iff, nonempty, if_false]

/-- **What comes of the parts of a number**, whatever does not go on with a number behind it. -/
theorem numberText_spelled (is : IsWhole whole) (all : AllDigits fraction)
    (spelled : ExponentSpelling exponent) : ∃ written, ∀ rest, NumberEnd rest →
      numberText (whole ++ (fractionText fraction ++ (exponent ++ rest))) =
        .ok (written, rest) := by
  obtain ⟨value, parts⟩ := exponentPart_spelled spelled
  refine ⟨⟨whole, fraction, value⟩, fun rest ends => ?_⟩
  have marked : ∀ c ∈ (exponent ++ rest).head?, c.isDigit = false ∧ c ≠ '.' := by
    cases spelled with
    | none => exact fun c inside => ⟨(ends c inside).1, (ends c inside).2.1⟩
    | some marked =>
      rintro c ⟨⟩
      rcases marked with rfl | rfl <;> decide
  have stops : DigitsEnd (fractionText fraction ++ (exponent ++ rest)) := by
    unfold fractionText
    split
    next => exact fun c inside => (marked c inside).1
    next =>
      rintro c ⟨⟩
      rfl
  simp only [numberText, wholeDigits_append is stops,
    fractionDigits_append all (fun c inside => (marked c inside).1)
      (fun c inside => (marked c inside).2), parts rest ends, bind, Except.bind, pure, Except.pure]

/-- What comes of a number after its sign. -/
theorem unsignedNumber_spelled (negative : Bool) (is : IsWhole whole) (all : AllDigits fraction)
    (spelled : ExponentSpelling exponent) : ∃ outcome : Except Fault Number,
      ∀ rest, NumberEnd rest →
        unsignedNumber negative (whole ++ (fractionText fraction ++ (exponent ++ rest))) =
          outcome.map fun number => (number, rest) := by
  obtain ⟨written, parts⟩ := numberText_spelled is all spelled
  cases meaning : written.meaning? negative with
  | none =>
    refine ⟨.error .malformed, fun rest ends => ?_⟩
    simp only [unsignedNumber, parts rest ends, meaning, bind, Except.bind]
    rfl
  | some number =>
    refine ⟨.ok number, fun rest ends => ?_⟩
    simp only [unsignedNumber, parts rest ends, meaning, bind, Except.bind]
    rfl

/-- **What comes of a number.** -/
theorem readNumber_numeral (numeral : Numeral spelling) : ∃ outcome : Except Fault Number,
    ∀ rest, NumberEnd rest → readNumber (spelling ++ rest) =
      outcome.map fun number => (number, rest) := by
  cases numeral with
  | mk negative is all spelled =>
    obtain ⟨outcome, parts⟩ := unsignedNumber_spelled negative is all spelled
    refine ⟨outcome, fun rest ends => ?_⟩
    rw [← parts rest ends]
    cases negative with
    | true =>
      simp only [if_true, List.append_assoc]
      rfl
    | false =>
      obtain ⟨c, others, rfl, digit⟩ := is.eq_cons
      simp only [Bool.false_eq_true, if_false, List.nil_append, List.append_assoc,
        List.cons_append]
      exact readNumber_of_digit digit

/-- A number that nobody wants is skipped, however large it is. -/
theorem skipNumber_numeral (numeral : Numeral spelling) (ends : NumberEnd rest) :
    skipNumber (spelling ++ rest) = .ok rest := by
  cases numeral with
  | @mk negative whole fraction exponent is all spelled =>
    obtain ⟨written, parts⟩ := numberText_spelled is all spelled
    unfold skipNumber
    cases negative with
    | true =>
      simp only [if_true, List.append_assoc, List.cons_append, List.nil_append, List.head?_cons,
        List.drop_succ_cons, List.drop_zero, parts rest ends]
    | false =>
      have unsigned : (whole ++ (fractionText fraction ++ (exponent ++ rest))).head? ≠
          some '-' := by
        obtain ⟨c, others, rfl, digit⟩ := is.eq_cons
        rintro ⟨⟩
        cases digit
      simp only [Bool.false_eq_true, if_false, List.nil_append, List.append_assoc, if_neg unsigned,
        parts rest ends]

/-! ### What was read as a number -/

theorem digitRun_eq (text : List Char) :
    text = (digitRun text).1 ++ (digitRun text).2 ∧ AllDigits (digitRun text).1 := by
  rw [digitRun, List.span_eq_takeWhile_dropWhile]
  exact ⟨List.takeWhile_append_dropWhile.symm, List.all_eq_true.mp List.all_takeWhile⟩

theorem isWhole_of_read {digits : List Char} (reads : wholeDigits text = .ok (digits, rest)) :
    IsWhole digits ∧ text = digits ++ rest := by
  obtain ⟨run, all⟩ := digitRun_eq text
  unfold wholeDigits at reads
  dsimp only at reads
  split_ifs at reads with empty zero
  · cases reads
  · cases reads
    rw [List.isEmpty_iff] at empty
    refine ⟨⟨all, empty, fun leading => ?_⟩, run⟩
    obtain ⟨c, others, cons⟩ := List.exists_cons_of_ne_nil empty
    rw [cons] at leading zero ⊢
    cases leading
    have short : ¬1 < ('0' :: others).length := fun long => zero ⟨rfl, long⟩
    have alone : others.length = 0 := by
      rw [List.length_cons] at short
      omega
    rw [List.length_eq_zero_iff.mp alone]

theorem fractionText_of_read {digits : List Char}
    (reads : fractionDigits text = .ok (digits, rest)) :
    AllDigits digits ∧ text = fractionText digits ++ rest := by
  unfold fractionDigits at reads
  split at reads
  next text =>
    obtain ⟨run, all⟩ := digitRun_eq text
    dsimp only at reads
    split_ifs at reads with empty
    · cases reads
    · cases reads
      rw [List.isEmpty_iff] at empty
      refine ⟨all, ?_⟩
      rw [fractionText, if_neg empty, List.cons_append, ← run]
  next =>
    cases reads
    exact ⟨allDigits_nil, rfl⟩

theorem takeSign_eq (text : List Char) :
    ∃ sign ∈ [[], ['+'], ['-']], text = sign ++ (takeSign text).2 := by
  unfold takeSign
  split
  · exact ⟨['-'], by simp, rfl⟩
  · exact ⟨['+'], by simp, rfl⟩
  · exact ⟨[], by simp, rfl⟩

theorem spelled_of_exponentPart {value : Option Int}
    (reads : exponentPart text = .ok (value, rest)) :
    ∃ exponent, ExponentSpelling exponent ∧ text = exponent ++ rest := by
  unfold exponentPart at reads
  split at reads
  next =>
    cases reads
    exact ⟨[], .none, rfl⟩
  next c text =>
    split_ifs at reads with marked
    · obtain ⟨sign, signed, signed_eq⟩ := takeSign_eq text
      obtain ⟨run, all⟩ := digitRun_eq (takeSign text).2
      dsimp only at reads
      by_cases empty : (digitRun (takeSign text).2).1.isEmpty = true
      · rw [if_pos empty] at reads
        cases reads
      · rw [if_neg empty] at reads
        cases reads
        rw [List.isEmpty_iff] at empty
        rw [Bool.or_eq_true, decide_eq_true_eq, decide_eq_true_eq] at marked
        refine ⟨_, .some marked signed all empty, ?_⟩
        rw [List.cons_append, List.append_assoc, ← run, ← signed_eq]
    · cases reads
      exact ⟨[], .none, rfl⟩

/-- **What was read as a number after its sign was spelled as one.** -/
theorem spelled_of_numberText {written : NumberText}
    (reads : numberText text = .ok (written, rest)) (negative : Bool) :
    ∃ spelling, Numeral ((if negative then ['-'] else []) ++ spelling) ∧
      text = spelling ++ rest := by
  obtain ⟨⟨whole, text⟩, first, reads⟩ := bind_eq_ok.mp reads
  obtain ⟨⟨fraction, text⟩, second, reads⟩ := bind_eq_ok.mp reads
  obtain ⟨⟨value, text⟩, third, reads⟩ := bind_eq_ok.mp reads
  cases reads
  obtain ⟨is, rfl⟩ := isWhole_of_read first
  obtain ⟨all, rfl⟩ := fractionText_of_read second
  obtain ⟨exponent, spelled, rfl⟩ := spelled_of_exponentPart third
  refine ⟨_, .mk negative is all spelled, ?_⟩
  rw [List.append_assoc, List.append_assoc]

theorem spelled_of_unsignedNumber {negative : Bool} {number : Number}
    (reads : unsignedNumber negative text = .ok (number, rest)) :
    ∃ spelling, Numeral ((if negative then ['-'] else []) ++ spelling) ∧
      text = spelling ++ rest := by
  obtain ⟨⟨written, left⟩, parts, reads⟩ := bind_eq_ok.mp reads
  dsimp only at reads
  split at reads
  · cases reads
    exact spelled_of_numberText parts negative
  · cases reads

theorem numeral_of_readNumber {number : Number} (reads : readNumber text = .ok (number, rest)) :
    ∃ spelling, Numeral spelling ∧ text = spelling ++ rest := by
  unfold readNumber at reads
  split at reads
  next text =>
    obtain ⟨spelling, numeral, rfl⟩ := spelled_of_unsignedNumber reads
    exact ⟨_, numeral, rfl⟩
  next text =>
    obtain ⟨spelling, numeral, rfl⟩ := spelled_of_unsignedNumber reads
    exact ⟨_, numeral, rfl⟩

theorem numeral_of_skipNumber (skips : skipNumber text = .ok rest) :
    ∃ spelling, Numeral spelling ∧ text = spelling ++ rest := by
  unfold skipNumber at skips
  split at skips
  next written left parts =>
    cases skips
    split_ifs at parts with negative
    · obtain ⟨text, rfl⟩ : ∃ others, text = '-' :: others := by
        cases text with
        | nil => cases negative
        | cons c others =>
          cases negative
          exact ⟨others, rfl⟩
      obtain ⟨spelling, numeral, same⟩ := spelled_of_numberText parts true
      exact ⟨_, numeral, congrArg ('-' :: ·) same⟩
    · obtain ⟨spelling, numeral, same⟩ := spelled_of_numberText parts false
      exact ⟨_, numeral, same⟩
  next => cases skips

end Numbers

end IncompleteBeta.Json
