/-
**Which settings mean the same.**

* `trim_blanks`, `map_toLower_trim`: white space around a text and the case of its letters do not
  get in each other's way;
* `Alike`: settings that differ in the white space around them and in the case of ASCII letters
  only;
* `alike_iff`: these are the settings with one normal form;
* **`ofText_eq_json_iff`**, **`ofText_eq_off_iff`**: a mode is asked for by the settings that are
  like one of its names, and by no others.
-/

import IncompleteBeta.Diagnostics.Mode

namespace IncompleteBeta.Diagnostics

open Text (isBlank blanks trim)

/-! ### Trimming -/

section Trim

variable {before text after : List Char}

theorem dropWhile_blanks (blank : ∀ c ∈ text, isBlank c = true) : text.dropWhile isBlank = [] := by
  rw [← text.append_nil, List.dropWhile_append_of_pos blank, List.dropWhile_nil]

/-- White space around a text does not matter to what is left of it. -/
theorem trim_blanks (blank : ∀ c ∈ before, isBlank c = true)
    (otherBlank : ∀ c ∈ after, isBlank c = true) : trim (before ++ text ++ after) = trim text := by
  unfold trim
  rw [List.append_assoc, List.dropWhile_append_of_pos blank, List.dropWhile_append]
  split
  next nothing =>
    rw [List.isEmpty_iff.mp nothing, dropWhile_blanks otherBlank]
  next =>
    rw [List.reverse_append, List.dropWhile_append_of_pos]
    intro c inside
    exact otherBlank c (List.mem_reverse.mp inside)

/-- A text is what is left of it, with white space around. -/
theorem exists_blanks (text : List Char) :
    ∃ before after, text = before ++ trim text ++ after ∧
      (∀ c ∈ before, isBlank c = true) ∧ ∀ c ∈ after, isBlank c = true := by
  refine ⟨text.takeWhile isBlank,
    ((text.dropWhile isBlank).reverse.takeWhile isBlank).reverse, ?_, ?_, ?_⟩
  · rw [List.append_assoc, trim, ← List.reverse_append, List.takeWhile_append_dropWhile,
      List.reverse_reverse, List.takeWhile_append_dropWhile]
  · exact List.all_eq_true.mp List.all_takeWhile
  · intro c inside
    exact List.all_eq_true.mp List.all_takeWhile c (List.mem_reverse.mp inside)

end Trim

/-! ### The case of letters -/

/-- Blanks stand before the first letter or after the last one. -/
theorem isBlank_of_letters {c : Char} (first : 65 ≤ c.toNat) (last : c.toNat ≤ 122) :
    isBlank c = false := by
  have outside : ∀ d ∈ blanks, ¬ (65 ≤ d.toNat ∧ d.toNat ≤ 122) :=
    -- By the characters of the list, and not by all characters there are.
    @of_decide_eq_true _ (List.decidableBAll _ blanks) rfl
  rw [isBlank, Bool.eq_false_iff]
  intro blank
  exact outside c (List.contains_iff_mem.mp blank) ⟨first, last⟩

/-- A blank stays one in lower case, and nothing becomes one. -/
theorem isBlank_toLower (c : Char) : isBlank c.toLower = isBlank c := by
  unfold Char.toLower
  split
  next upper =>
    obtain ⟨first, last⟩ := upper
    have first : 65 ≤ c.toNat := UInt32.le_iff_toNat_le.mp first
    have last : c.toNat ≤ 90 := UInt32.le_iff_toNat_le.mp last
    have lower : (c.val + ('a'.val - 'A'.val)).toNat = c.toNat + 32 := by
      rw [UInt32.toNat_add]
      exact Nat.mod_eq_of_lt (by show c.toNat + 32 < _; omega)
    rw [isBlank_of_letters first (by omega)]
    refine isBlank_of_letters (c := ⟨_, _⟩) ?_ ?_
    all_goals
      show _ ≤ _
      simp only [Char.toNat]
      omega
  next => rfl

theorem isBlank_comp_toLower : isBlank ∘ Char.toLower = isBlank := funext isBlank_toLower

theorem map_toLower_trim (text : List Char) :
    (trim text).map Char.toLower = trim (text.map Char.toLower) := by
  unfold trim
  rw [List.dropWhile_map, isBlank_comp_toLower, ← List.map_reverse, List.dropWhile_map,
    isBlank_comp_toLower, ← List.map_reverse]

/-! ### Settings -/

/-- **Settings that differ only in the white space around them and the case of ASCII letters.** -/
def Alike (setting other : String) : Prop :=
  ∃ before middle after otherBefore otherMiddle otherAfter,
    setting.toList = before ++ middle ++ after ∧
    other.toList = otherBefore ++ otherMiddle ++ otherAfter ∧
    (∀ c ∈ before ++ after, isBlank c = true) ∧
    (∀ c ∈ otherBefore ++ otherAfter, isBlank c = true) ∧
    middle.map Char.toLower = otherMiddle.map Char.toLower

/-- A setting without the white space around it, in lower case. -/
def normalized (setting : String) : List Char := (trim setting.toList).map Char.toLower

/-- **Alike settings are those with one normal form.** -/
theorem alike_iff {setting other : String} :
    Alike setting other ↔ normalized setting = normalized other := by
  constructor
  · rintro ⟨before, middle, after, otherBefore, otherMiddle, otherAfter, same, otherSame, blank,
      otherBlank, letters⟩
    rw [List.forall_mem_append] at blank otherBlank
    unfold normalized
    rw [same, otherSame, trim_blanks blank.1 blank.2, trim_blanks otherBlank.1 otherBlank.2,
      map_toLower_trim,
      letters, ← map_toLower_trim]
  · intro same
    obtain ⟨before, after, split, blank, otherBlank⟩ := exists_blanks setting.toList
    obtain ⟨front, back, otherSplit, thirdBlank, fourthBlank⟩ := exists_blanks other.toList
    exact ⟨before, _, after, front, _, back, split, otherSplit,
      List.forall_mem_append.mpr ⟨blank, otherBlank⟩,
      List.forall_mem_append.mpr ⟨thirdBlank, fourthBlank⟩,
      same⟩

theorem Mode.ofEnvironment_some (setting : String) :
    Mode.ofEnvironment (some setting) = Mode.ofText setting := rfl

theorem ofText_eq (setting : String) :
    Mode.ofText setting =
      if String.ofList (normalized setting) ∈ Mode.jsonNames then .json
      else if String.ofList (normalized setting) ∈ Mode.offNames then .off else .text := rfl

/-- Alike settings ask for one mode. -/
theorem Alike.ofText_eq {setting other : String} (alike : Alike setting other) :
    Mode.ofText setting = Mode.ofText other := by
  rw [Diagnostics.ofText_eq, Diagnostics.ofText_eq, alike_iff.mp alike]

/-- The normal form of a setting is one of some names that are normal, where it is like one. -/
theorem normalized_mem_iff {names : List String} {setting : String}
    (normal : ∀ name ∈ names, String.ofList (normalized name) = name) :
    String.ofList (normalized setting) ∈ names ↔ ∃ name ∈ names, Alike setting name := by
  constructor
  · intro member
    refine ⟨_, member, alike_iff.mpr ?_⟩
    have same := normal _ member
    rw [← String.toList_inj, String.toList_ofList, String.toList_ofList] at same
    exact same.symm
  · rintro ⟨name, member, alike⟩
    rw [alike_iff.mp alike, normal name member]
    exact member

theorem json_names_iff {setting : String} :
    String.ofList (normalized setting) ∈ Mode.jsonNames ↔
      ∃ name ∈ Mode.jsonNames, Alike setting name :=
  normalized_mem_iff (by decide +kernel)

theorem off_names_iff {setting : String} :
    String.ofList (normalized setting) ∈ Mode.offNames ↔
      ∃ name ∈ Mode.offNames, Alike setting name :=
  normalized_mem_iff (by decide +kernel)

/-- **The settings that ask for lines of JSON.** -/
theorem ofText_eq_json_iff {setting : String} :
    Mode.ofText setting = .json ↔ ∃ name ∈ Mode.jsonNames, Alike setting name := by
  rw [ofText_eq, ← json_names_iff]
  split
  next listed => exact ⟨fun _ => listed, fun _ => rfl⟩
  next unlisted => split <;> simp [unlisted]

/-- **The settings that ask for silence.** -/
theorem ofText_eq_off_iff {setting : String} :
    Mode.ofText setting = .off ↔ ∃ name ∈ Mode.offNames, Alike setting name := by
  rw [ofText_eq, ← off_names_iff]
  have apart : ∀ name ∈ Mode.jsonNames, name ∉ Mode.offNames := by decide
  split
  next listed => exact ⟨fun json => (by cases json), fun off => absurd off (apart _ listed)⟩
  next => split <;> simp_all

/-- A setting that is like no name asks for lines of text. -/
theorem ofText_eq_text {setting : String}
    (unlike : ∀ name ∈ Mode.jsonNames ++ Mode.offNames, ¬ Alike setting name) :
    Mode.ofText setting = .text := by
  rw [List.forall_mem_append] at unlike
  cases mode : Mode.ofText setting with
  | text => rfl
  | json =>
    obtain ⟨name, member, alike⟩ := ofText_eq_json_iff.mp mode
    exact absurd alike (unlike.1 name member)
  | off =>
    obtain ⟨name, member, alike⟩ := ofText_eq_off_iff.mp mode
    exact absurd alike (unlike.2 name member)

end IncompleteBeta.Diagnostics
