/-
**Texts on one line.**

* `Uncontrolled`: texts without the characters below the space;
* **`uncontrolled_compactText`**: the text of a value on one line is one, whatever its strings hold;
* `newline_not_mem_compact`: in particular it has no end of line in it.
-/

import IncompleteBeta.Proofs.Json.Records
import Mathlib.Tactic.IntervalCases

namespace IncompleteBeta.Json

/-- **A text without control characters.** -/
def Uncontrolled (text : List Char) : Prop := ∀ c ∈ text, 32 ≤ c.toNat

-- By the characters of the text, and not by all characters there are.
instance (text : List Char) : Decidable (Uncontrolled text) :=
  List.decidableBAll (fun c : Char => 32 ≤ c.toNat) text

section Texts

variable {text more : List Char} {c : Char}

theorem uncontrolled_nil : Uncontrolled [] := List.forall_mem_nil _

theorem uncontrolled_cons : Uncontrolled (c :: text) ↔ 32 ≤ c.toNat ∧ Uncontrolled text :=
  List.forall_mem_cons

theorem uncontrolled_append : Uncontrolled (text ++ more) ↔ Uncontrolled text ∧ Uncontrolled more :=
  List.forall_mem_append

theorem Uncontrolled.of_digits (all : AllDigits text) : Uncontrolled text := by
  intro c inside
  have digit := all c inside
  simp only [Char.isDigit, Bool.and_eq_true, decide_eq_true_eq, ge_iff_le, UInt32.le_iff_toNat_le]
    at digit
  exact Nat.le_trans (by decide) digit.1

end Texts

/-! ### Values without parts -/

theorem uncontrolled_hexDigit {n : Nat} (small : n < 16) : 32 ≤ (hexDigit n).toNat := by
  interval_cases n <;> decide

/-- Controls are escaped. -/
theorem uncontrolled_escapedChar (c : Char) : Uncontrolled (escapedChar c) := by
  unfold escapedChar
  split_ifs with _ _ _ _ _ _ _ control
  all_goals try decide
  · simp only [uncontrolled_cons, uncontrolled_nil, and_true]
    exact ⟨by decide, by decide, by decide, by decide, uncontrolled_hexDigit (by omega),
      uncontrolled_hexDigit (by omega)⟩
  · exact uncontrolled_cons.mpr ⟨Nat.le_of_not_lt control, uncontrolled_nil⟩

theorem uncontrolled_stringText (s : String) : Uncontrolled (stringText s) := by
  rw [stringText, uncontrolled_cons, uncontrolled_append]
  exact ⟨by decide, List.forall_mem_flatMap.mpr fun c _ => uncontrolled_escapedChar c, by decide⟩

theorem uncontrolled_integerText (n : Int) : Uncontrolled (integerText n) := by
  rw [integerText, uncontrolled_append]
  refine ⟨?_, .of_digits (allDigits_toDigits _)⟩
  split_ifs <;> decide

theorem uncontrolled_exponentText (plus : Bool) (e : Int) : Uncontrolled (exponentText plus e) := by
  rw [exponentText, uncontrolled_append]
  refine ⟨?_, .of_digits (allDigits_toDigits _)⟩
  split_ifs <;> decide

theorem uncontrolled_positionalText (pointZero : Bool) {digits : List Char} (all : AllDigits digits)
    (whole : Int) : Uncontrolled (positionalText pointZero digits whole) := by
  unfold positionalText
  split_ifs
  · rw [uncontrolled_cons, uncontrolled_cons]
    exact ⟨by decide, by decide, .of_digits (allDigits_append (allDigits_zeros _) all)⟩
  · rw [uncontrolled_append]
    exact ⟨.of_digits (allDigits_append all (allDigits_zeros _)), by decide⟩
  · rw [List.append_nil]
    exact .of_digits (allDigits_append all (allDigits_zeros _))
  · rw [uncontrolled_append, uncontrolled_cons]
    exact ⟨.of_digits (allDigits_take all _), by decide, .of_digits (allDigits_drop all _)⟩

theorem uncontrolled_scientificText (plus : Bool) {digits : List Char} (all : AllDigits digits)
    (e : Int) : Uncontrolled (scientificText plus digits e) := by
  rw [scientificText, uncontrolled_append, uncontrolled_append, uncontrolled_cons]
  refine ⟨⟨.of_digits (allDigits_take all _), ?_⟩, by decide, uncontrolled_exponentText plus e⟩
  split_ifs
  · exact uncontrolled_nil
  · exact uncontrolled_cons.mpr ⟨by decide, .of_digits (allDigits_drop all _)⟩

theorem uncontrolled_decimalText (layout : Layout) (d : Decimal) :
    Uncontrolled (layout.decimalText d) := by
  have all : AllDigits d.digits := allDigits_toDigits _
  unfold Layout.decimalText
  dsimp only
  split_ifs
  · exact uncontrolled_positionalText _ all _
  · exact uncontrolled_scientificText _ all _

theorem uncontrolled_finiteText (layout : Layout) (x : Float) :
    Uncontrolled (layout.finiteText x) := by
  rw [Layout.finiteText, uncontrolled_append]
  refine ⟨?_, uncontrolled_decimalText layout _⟩
  split_ifs <;> decide

theorem uncontrolled_floatText (x : Float) : Uncontrolled (floatText x) := by
  unfold floatText
  split_ifs
  · exact uncontrolled_finiteText _ x
  · decide

/-! ### Values with parts -/

theorem uncontrolled_moreItems {level : Nat} {items : List Json}
    (each : ∀ item ∈ items, Uncontrolled (spacedText .none level item)) :
    Uncontrolled (moreItems .none level items) := by
  induction items with
  | nil => exact uncontrolled_nil
  | cons item items ih =>
    obtain ⟨first, others⟩ := List.forall_mem_cons.mp each
    rw [moreItems, Spacing.gap_none, List.nil_append, uncontrolled_cons, uncontrolled_append]
    exact ⟨by decide, first, ih others⟩

theorem uncontrolled_moreMembers {level : Nat} {members : List (String × Json)}
    (each : ∀ member ∈ members, Uncontrolled (spacedText .none level member.2)) :
    Uncontrolled (moreMembers .none level members) := by
  induction members with
  | nil => exact uncontrolled_nil
  | cons member members ih =>
    obtain ⟨first, others⟩ := List.forall_mem_cons.mp each
    simp only [moreMembers, Spacing.gap_none, Spacing.afterColon_none, List.nil_append,
      List.append_assoc, List.cons_append, uncontrolled_cons, uncontrolled_append]
    exact ⟨by decide, uncontrolled_stringText _, by decide, first, ih others⟩

/-- **The text of a value on one line has no controls**, whatever is in its strings. -/
theorem uncontrolled_compactText (value : Json) : Uncontrolled value.compactText := by
  suffices every : ∀ level, Uncontrolled (spacedText .none level value) by
    rw [compactText_eq 0]
    exact every 0
  induction value using nested with
  | null => exact fun _ => (by decide : Uncontrolled ['n', 'u', 'l', 'l'])
  | boolean value =>
    have written : Uncontrolled (booleanText value) := by cases value <;> decide
    exact fun _ => written
  | integer n => exact fun _ => uncontrolled_integerText n
  | float x => exact fun _ => uncontrolled_floatText x
  | string s => exact fun _ => uncontrolled_stringText s
  | array items ih =>
    intro level
    rcases items with _ | ⟨item, items⟩
    · exact (by decide : Uncontrolled ['[', ']'])
    · obtain ⟨first, others⟩ := List.forall_mem_cons.mp ih
      simp only [spacedText, Spacing.gap_none, List.nil_append, List.append_nil, uncontrolled_cons,
        uncontrolled_append]
      exact ⟨by decide, ⟨first _, uncontrolled_moreItems fun item inside => others item inside _⟩,
        by decide⟩
  | object members ih =>
    intro level
    rcases members with _ | ⟨⟨key, value⟩, members⟩
    · exact (by decide : Uncontrolled ['\x7b', '\x7d'])
    · obtain ⟨first, others⟩ := List.forall_mem_cons.mp ih
      simp only [spacedText, Spacing.gap_none, Spacing.afterColon_none, List.nil_append,
        List.append_nil, List.append_assoc, List.cons_append, uncontrolled_cons,
        uncontrolled_append]
      exact ⟨by decide, uncontrolled_stringText key, by decide, first _,
        uncontrolled_moreMembers fun member inside => others member inside _, by decide⟩

/-- **A value is written on one line.** -/
theorem newline_not_mem_compact (value : Json) : '\n' ∉ value.compact.toList := by
  rw [compact, String.toList_ofList]
  intro inside
  exact absurd (uncontrolled_compactText value _ inside) (by decide)

end IncompleteBeta.Json
