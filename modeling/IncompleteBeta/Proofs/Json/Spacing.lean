/-
**JSON texts with any white space between their tokens.**

* `Json.nested`: induction on values, with items and members as lists;
* `Spacing`: which white space stands where;
* `spacedText`: the text of a value with this spacing;
* **`compactText_eq`**, **`prettyText_eq`**: the texts on one line and on several lines are those of
  two spacings, so what is shown of any spacing holds of both.
-/

import IncompleteBeta.Json.Reader

namespace IncompleteBeta.Json

/-- **Induction on values**: what holds of the items of an array holds of the array, and what holds
of the values in an object holds of the object. -/
@[elab_as_elim]
theorem nested {P : Json → Prop} (null : P .null) (boolean : ∀ value, P (.boolean value))
    (integer : ∀ value, P (.integer value)) (float : ∀ value, P (.float value))
    (string : ∀ value, P (.string value))
    (array : ∀ items, (∀ item ∈ items, P item) → P (.array items))
    (object : ∀ members, (∀ member ∈ members, P member.2) → P (.object members)) (value : Json) :
    P value :=
  @Json.rec P (fun items => ∀ item ∈ items, P item) (fun members => ∀ member ∈ members, P member.2)
    (fun member => P member.2) null boolean integer float string array object
    (List.forall_mem_nil _) (fun _ _ head tail => List.forall_mem_cons.mpr ⟨head, tail⟩)
    (List.forall_mem_nil _) (fun _ _ head tail => List.forall_mem_cons.mpr ⟨head, tail⟩)
    (fun _ _ value => value) value

/-- White space only. -/
def Blank (text : List Char) : Prop := ∀ c ∈ text, isSpace c = true

theorem blank_nil : Blank [] := List.forall_mem_nil _

theorem blank_cons {c : Char} {text : List Char} (space : isSpace c = true) (blank : Blank text) :
    Blank (c :: text) := List.forall_mem_cons.mpr ⟨space, blank⟩

/-- **The white space of a text**: in front of what is at a level of nesting, and after colons. -/
structure Spacing where
  gap : Nat → List Char
  afterColon : List Char
  blank_gap : ∀ level, Blank (gap level)
  blank_afterColon : Blank afterColon

namespace Spacing

/-- No white space at all. -/
def none : Spacing where
  gap _ := []
  afterColon := []
  blank_gap _ := blank_nil
  blank_afterColon := blank_nil

theorem blank_newLine (level : Nat) : Blank (newLine level) := by
  intro c inside
  rcases List.mem_cons.mp inside with rfl | space
  · rfl
  · rw [List.eq_of_mem_replicate space]
    rfl

/-- A line for each item and member, and a space after colons. -/
def lines : Spacing where
  gap := newLine
  afterColon := [' ']
  blank_gap := blank_newLine
  blank_afterColon := blank_cons rfl blank_nil

variable (level : Nat)

@[simp] theorem gap_none : none.gap level = [] := rfl

@[simp] theorem afterColon_none : none.afterColon = [] := rfl

@[simp] theorem gap_lines : lines.gap level = newLine level := rfl

@[simp] theorem afterColon_lines : lines.afterColon = [' '] := rfl

end Spacing

/-! ### Texts -/

mutual

/-- The text of a value at a level of nesting. -/
def spacedText (spacing : Spacing) (level : Nat) : Json → List Char
  | .null => ['n', 'u', 'l', 'l']
  | .boolean value => booleanText value
  | .integer value => integerText value
  | .float value => floatText value
  | .string value => stringText value
  | .array [] => ['[', ']']
  | .array (item :: rest) =>
    '[' :: (spacing.gap (level + 1) ++ spacedText spacing (level + 1) item
      ++ moreItems spacing (level + 1) rest ++ spacing.gap level ++ [']'])
  | .object [] => ['\x7b', '\x7d']
  | .object ((key, value) :: rest) =>
    '\x7b' :: (spacing.gap (level + 1) ++ stringText key ++ ':' :: spacing.afterColon
      ++ spacedText spacing (level + 1) value ++ moreMembers spacing (level + 1) rest
      ++ spacing.gap level ++ ['\x7d'])

/-- The items after the first one, each with the comma in front of it. -/
def moreItems (spacing : Spacing) (level : Nat) : List Json → List Char
  | [] => []
  | item :: rest =>
    ',' :: (spacing.gap level ++ spacedText spacing level item ++ moreItems spacing level rest)

/-- The members after the first one, each with the comma in front of it. -/
def moreMembers (spacing : Spacing) (level : Nat) : List (String × Json) → List Char
  | [] => []
  | (key, value) :: rest =>
    ',' :: (spacing.gap level ++ stringText key ++ ':' :: spacing.afterColon
      ++ spacedText spacing level value ++ moreMembers spacing level rest)

end

/-! ### One line -/

theorem compactItems_eq (level : Nat) {rest : List Json} {item : Json}
    (same : ∀ each ∈ item :: rest, each.compactText = spacedText .none level each) :
    compactItems (item :: rest) = spacedText .none level item ++ moreItems .none level rest := by
  induction rest generalizing item with
  | nil =>
    rw [compactItems, moreItems, List.append_nil]
    exact same item List.mem_cons_self
  | cons next rest ih =>
    obtain ⟨first, others⟩ := List.forall_mem_cons.mp same
    rw [compactItems, moreItems, ih others, first]
    rfl

theorem compactMembers_eq (level : Nat) {rest : List (String × Json)} {key : String} {value : Json}
    (same : ∀ member ∈ (key, value) :: rest,
      member.2.compactText = spacedText .none level member.2) :
    compactMembers ((key, value) :: rest) =
      stringText key ++ ':' :: (spacedText .none level value ++ moreMembers .none level rest) := by
  induction rest generalizing key value with
  | nil =>
    rw [compactMembers, moreMembers, List.append_nil, same _ List.mem_cons_self]
  | cons next rest ih =>
    obtain ⟨first, others⟩ := List.forall_mem_cons.mp same
    obtain ⟨otherKey, otherValue⟩ := next
    rw [compactMembers, moreMembers, ih others, first]
    simp only [Spacing.gap_none, Spacing.afterColon_none, List.nil_append, List.append_assoc,
      List.cons_append]

/-- **The text on one line has no spacing.** -/
theorem compactText_eq (level : Nat) (value : Json) :
    value.compactText = spacedText .none level value := by
  induction value using nested generalizing level with
  | null | boolean | integer | float | string => simp only [compactText, spacedText]
  | array items same =>
    cases items with
    | nil => simp only [compactText, spacedText, compactItems, List.nil_append]
    | cons item rest =>
      rw [compactText, spacedText, compactItems_eq (level + 1) fun each inside =>
        same each inside (level + 1)]
      simp only [Spacing.gap_none, List.nil_append, List.append_nil]
  | object members same =>
    cases members with
    | nil => simp only [compactText, spacedText, compactMembers, List.nil_append]
    | cons member rest =>
      obtain ⟨key, value⟩ := member
      rw [compactText, compactMembers_eq (level + 1) fun member inside =>
        same member inside (level + 1), spacedText]
      simp only [Spacing.gap_none, Spacing.afterColon_none, List.nil_append, List.append_nil,
        List.append_assoc, List.cons_append]

/-! ### Several lines -/

theorem prettyItems_eq (level : Nat) {rest : List Json} {item : Json}
    (same : ∀ each ∈ item :: rest, each.prettyText level = spacedText .lines level each) :
    prettyItems level (item :: rest) =
      spacedText .lines level item ++ moreItems .lines level rest := by
  induction rest generalizing item with
  | nil =>
    rw [prettyItems, moreItems, List.append_nil]
    exact same item List.mem_cons_self
  | cons next rest ih =>
    obtain ⟨first, others⟩ := List.forall_mem_cons.mp same
    rw [prettyItems, moreItems, ih others, first]
    simp only [Spacing.gap_lines, List.append_assoc]

theorem prettyMembers_eq (level : Nat) {rest : List (String × Json)} {key : String} {value : Json}
    (same : ∀ member ∈ (key, value) :: rest,
      member.2.prettyText level = spacedText .lines level member.2) :
    prettyMembers level ((key, value) :: rest) =
      stringText key ++ ':' :: ' ' ::
        (spacedText .lines level value ++ moreMembers .lines level rest) := by
  induction rest generalizing key value with
  | nil =>
    rw [prettyMembers, moreMembers, List.append_nil, same _ List.mem_cons_self]
  | cons next rest ih =>
    obtain ⟨first, others⟩ := List.forall_mem_cons.mp same
    obtain ⟨otherKey, otherValue⟩ := next
    rw [prettyMembers, moreMembers, ih others, first]
    simp only [Spacing.gap_lines, Spacing.afterColon_lines, List.nil_append, List.append_assoc,
      List.cons_append]

/-- **The text on several lines has a line for each item and member.** -/
theorem prettyText_eq (level : Nat) (value : Json) :
    value.prettyText level = spacedText .lines level value := by
  induction value using nested generalizing level with
  | null | boolean | integer | float | string => simp only [prettyText, spacedText]
  | array items same =>
    cases items with
    | nil => simp only [prettyText, spacedText]
    | cons item rest =>
      rw [prettyText, spacedText, prettyItems_eq (level + 1) fun each inside =>
        same each inside (level + 1)]
      simp only [Spacing.gap_lines, List.append_assoc]
  | object members same =>
    cases members with
    | nil => simp only [prettyText, spacedText]
    | cons member rest =>
      obtain ⟨key, value⟩ := member
      rw [prettyText, prettyMembers_eq (level + 1) fun member inside =>
        same member inside (level + 1), spacedText]
      simp only [Spacing.gap_lines, Spacing.afterColon_lines, List.nil_append, List.append_assoc,
      List.cons_append]

end IncompleteBeta.Json
