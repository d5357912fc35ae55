/-
**Decimal digits, written and read.**

* `digitsValue_toDigits`: the digits of a number are read as that number;
* `digitRun_append`: a run of digits ends where something else follows;
* `toDigits_eq_cons`: only the number zero begins with a zero.
-/

import IncompleteBeta.Decimal.Reading
import Mathlib.Data.List.TakeDrop

namespace IncompleteBeta

/-- Digits only. -/
def AllDigits (text : List Char) : Prop := ∀ c ∈ text, c.isDigit = true

/-- A text that does not go on with a digit. -/
def DigitsEnd (text : List Char) : Prop := ∀ c ∈ text.head?, c.isDigit = false

theorem allDigits_nil : AllDigits [] := List.forall_mem_nil _

theorem allDigits_append {digits others : List Char} (all : AllDigits digits)
    (otherAll : AllDigits others) : AllDigits (digits ++ others) :=
  List.forall_mem_append.mpr ⟨all, otherAll⟩

theorem allDigits_zeros (count : Nat) : AllDigits (List.replicate count '0') := by
  intro c inside
  rw [List.eq_of_mem_replicate inside]
  rfl

theorem allDigits_toDigits (n : Nat) : AllDigits (Nat.toDigits 10 n) := fun _ inside =>
  Nat.isDigit_of_mem_toDigits (by decide) (Nat.le_refl 10) inside

theorem allDigits_take {digits : List Char} (all : AllDigits digits) (count : Nat) :
    AllDigits (digits.take count) := fun c inside => all c (List.mem_of_mem_take inside)

theorem allDigits_drop {digits : List Char} (all : AllDigits digits) (count : Nat) :
    AllDigits (digits.drop count) := fun c inside => all c (List.mem_of_mem_drop inside)

/-! ### Values -/

@[simp] theorem digitsValue_nil (start : Nat) : digitsValue start [] = start := rfl

theorem digitsValue_append (start : Nat) (digits others : List Char) :
    digitsValue start (digits ++ others) = digitsValue (digitsValue start digits) others :=
  Nat.ofDigitChars_append start

/-- **The digits of a number are read as that number.** -/
theorem digitsValue_toDigits (n : Nat) : digitsValue 0 (Nat.toDigits 10 n) = n :=
  Nat.ofDigitChars_ten_toDigits

/-! ### Runs -/

/-- **A run of digits ends where something else follows.** -/
theorem digitRun_append {digits rest : List Char} (all : AllDigits digits)
    (ends : DigitsEnd rest) : digitRun (digits ++ rest) = (digits, rest) := by
  have stops : rest.takeWhile Char.isDigit = [] ∧ rest.dropWhile Char.isDigit = rest := by
    cases rest with
    | nil => exact ⟨rfl, rfl⟩
    | cons c rest =>
      have other : ¬ c.isDigit = true := by simp [ends c rfl]
      exact ⟨List.takeWhile_cons_of_neg other, List.dropWhile_cons_of_neg other⟩
  rw [digitRun, List.span_eq_takeWhile_dropWhile, List.takeWhile_append_of_pos all,
    List.dropWhile_append_of_pos all, stops.1, stops.2, List.append_nil]

/-! ### Leading digits -/

theorem digitChar_ne_zero {d : Nat} (positive : 0 < d) (small : d < 10) : d.digitChar ≠ '0' := by
  revert positive
  decide +revert

/-- **Only the number zero begins with a zero.** -/
theorem toDigits_eq_cons {n : Nat} (positive : 0 < n) :
    ∃ c rest, Nat.toDigits 10 n = c :: rest ∧ c ≠ '0' := by
  induction n using Nat.strongRecOn with
  | ind n ih =>
    rcases Nat.lt_or_ge n 10 with small | large
    · exact ⟨n.digitChar, [], Nat.toDigits_of_lt_base small, digitChar_ne_zero positive small⟩
    · obtain ⟨c, rest, leading, nonzero⟩ := ih (n / 10) (by omega) (by omega)
      exact ⟨c, rest ++ [(n % 10).digitChar],
        by rw [Nat.toDigits_of_base_le (by decide) large, leading, List.cons_append], nonzero⟩

theorem toDigits_zero : Nat.toDigits 10 0 = ['0'] := rfl

end IncompleteBeta
