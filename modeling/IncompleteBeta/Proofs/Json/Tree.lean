/-
**JSON texts and their syntax trees.**

A tree has the strings and numbers of a text as they are spelled there, and the members of its
objects in their order; all that it leaves open is the white space between the tokens. The grammar
is that of JSON: any value may stand in a tree, also one that no reader could make a number or a
string of.

* `Quotable`, `Numeral`: what stands between the quotes of a string, and the spelling of a number;
* `Tree`: the syntax trees;
* `Separator`, `Listed`: items with commas between them;
* **`Renders`**, `Presents`: the texts of a tree, alone and with white space around them;
* `renders_eq_cons`: with which character a tree begins;
* `rendered_array`, `rendered_object`: a tree has a text where its parts have one.
-/

import IncompleteBeta.Proofs.Json.Lexeme

namespace IncompleteBeta.Json

/-! ### Strings and numbers -/

/-- **What stands between the quotes of a string**: characters that stand for themselves, letters
behind a backslash, and code units in four digits each, paired or not. -/
inductive Quotable : List Char → Prop where
  | nil : Quotable []
  | plain {c : Char} {text : List Char} (printed : 32 ≤ c.toNat) (quote : c ≠ '\"')
      (slash : c ≠ '\\') (rest : Quotable text) : Quotable (c :: text)
  | letter {c d : Char} {text : List Char} (escapes : unescaped? c = some d)
      (rest : Quotable text) : Quotable ('\\' :: c :: text)
  | unit {digits text : List Char} (four : digits.length = 4)
      (hexadecimal : ∀ c ∈ digits, (hexValue? c).isSome) (rest : Quotable text) :
      Quotable ('\\' :: 'u' :: (digits ++ text))

/-- An exponent with its letter and its sign, if there is one. -/
inductive ExponentSpelling : List Char → Prop where
  | none : ExponentSpelling []
  | some {letter : Char} {sign digits : List Char} (marked : letter = 'e' ∨ letter = 'E')
      (signed : sign ∈ [[], ['+'], ['-']]) (all : AllDigits digits) (nonempty : digits ≠ []) :
      ExponentSpelling (letter :: (sign ++ digits))

/-- **The spelling of a number.** -/
inductive Numeral : List Char → Prop where
  | mk (negative : Bool) {whole fraction exponent : List Char} (is : IsWhole whole)
      (all : AllDigits fraction) (spelled : ExponentSpelling exponent) :
      Numeral ((if negative then ['-'] else []) ++
        (whole ++ (fractionText fraction ++ exponent)))

/-! ### Trees -/

/-- **A syntax tree.** Strings are without their quotes, and so are the keys of members. -/
inductive Tree where
  | null
  | boolean (value : Bool)
  | number (spelling : List Char)
  | string (spelling : List Char)
  | array (items : List Tree)
  | object (members : List (List Char × Tree))

/-- What stands in front of an item: white space, with a comma in it unless the item is the
first. -/
inductive Separator : (first : Bool) → List Char → Prop where
  | first {gap : List Char} (blank : Blank gap) : Separator true gap
  | comma {gap otherGap : List Char} (blank : Blank gap) (otherBlank : Blank otherGap) :
      Separator false (gap ++ ',' :: otherGap)

/-- **The text of items**, one after the other. -/
inductive Listed {ι : Type} (P : ι → List Char → Prop) :
    (first : Bool) → List ι → List Char → Prop where
  | nil {first : Bool} : Listed P first [] []
  | cons {first : Bool} {item : ι} {items : List ι} {gap text more : List Char}
      (separator : Separator first gap) (head : P item text) (tail : Listed P false items more) :
      Listed P first (item :: items) (gap ++ (text ++ more))

/-- The text of a member, with its key. -/
inductive MemberText (P : Tree → List Char → Prop) : List Char × Tree → List Char → Prop where
  | mk {key gap otherGap text : List Char} {tree : Tree} (quotable : Quotable key)
      (blank : Blank gap) (otherBlank : Blank otherGap) (value : P tree text) :
      MemberText P (key, tree) ('\"' :: (key ++ '\"' :: (gap ++ ':' :: (otherGap ++ text))))

/-- **The texts of a tree**, from its first character to its last one. -/
inductive Renders : Tree → List Char → Prop where
  | null : Renders .null ['n', 'u', 'l', 'l']
  | boolean (value : Bool) : Renders (.boolean value) (booleanText value)
  | number {spelling : List Char} (numeral : Numeral spelling) :
      Renders (.number spelling) spelling
  | string {spelling : List Char} (quotable : Quotable spelling) :
      Renders (.string spelling) ('\"' :: (spelling ++ ['\"']))
  | array {trees : List Tree} {inner gap : List Char} (items : Listed Renders true trees inner)
      (blank : Blank gap) : Renders (.array trees) ('[' :: (inner ++ (gap ++ [']'])))
  | object {members : List (List Char × Tree)} {inner gap : List Char}
      (listed : Listed (MemberText Renders) true members inner) (blank : Blank gap) :
      Renders (.object members) ('\x7b' :: (inner ++ (gap ++ ['\x7d'])))

/-- **The whole texts of a tree**, with white space around it. -/
inductive Presents (tree : Tree) : List Char → Prop where
  | mk {before body after : List Char} (blank : Blank before) (renders : Renders tree body)
      (otherBlank : Blank after) : Presents tree (before ++ (body ++ after))

/-! ### The first character -/

/-- With which character a tree begins. -/
inductive Begins : Tree → Char → Prop where
  | null : Begins .null 'n'
  | yes : Begins (.boolean true) 't'
  | no : Begins (.boolean false) 'f'
  | number {spelling : List Char} {c : Char} (sign_or_digit : c = '-' ∨ c.isDigit = true) :
      Begins (.number spelling) c
  | string {spelling : List Char} : Begins (.string spelling) '\"'
  | array {trees : List Tree} : Begins (.array trees) '['
  | object {members : List (List Char × Tree)} : Begins (.object members) '\x7b'

section First

variable {tree : Tree} {text spelling : List Char} {c : Char}

theorem Numeral.eq_cons (numeral : Numeral spelling) :
    ∃ c others, spelling = c :: others ∧ (c = '-' ∨ c.isDigit = true) := by
  cases numeral with
  | mk negative is all spelled =>
    cases negative with
    | true => exact ⟨'-', _, rfl, .inl rfl⟩
    | false =>
      obtain ⟨c, others, rfl, digit⟩ := is.eq_cons
      exact ⟨c, _, rfl, .inr digit⟩

/-- **A text of a tree begins as the tree does.** -/
theorem renders_eq_cons (renders : Renders tree text) :
    ∃ c others, text = c :: others ∧ Begins tree c := by
  cases renders with
  | null => exact ⟨'n', _, rfl, .null⟩
  | boolean value =>
    cases value with
    | true => exact ⟨'t', _, rfl, .yes⟩
    | false => exact ⟨'f', _, rfl, .no⟩
  | number numeral =>
    obtain ⟨c, others, rfl, leading⟩ := numeral.eq_cons
    exact ⟨c, others, rfl, .number leading⟩
  | string quotable => exact ⟨'\"', _, rfl, .string⟩
  | array items blank => exact ⟨'[', _, rfl, .array⟩
  | object members blank => exact ⟨'\x7b', _, rfl, .object⟩

end First

/-! ### Trees that have a text -/

/-- **A tree that has a text**: its strings and numbers are spelled as those of JSON. -/
def Tree.Rendered (tree : Tree) : Prop := ∃ text, Renders tree text

section Rendered

variable {ι : Type} {P : ι → List Char → Prop} {first : Bool} {items : List ι} {text : List Char}

theorem listed_of_forall (texts : ∀ item ∈ items, ∃ text, P item text) (first : Bool) :
    ∃ text, Listed P first items text := by
  induction items generalizing first with
  | nil => exact ⟨[], .nil⟩
  | cons item items ih =>
    obtain ⟨⟨text, head⟩, others⟩ := List.forall_mem_cons.mp texts
    obtain ⟨more, tail⟩ := ih others false
    cases first with
    | true => exact ⟨_, .cons (.first blank_nil) head tail⟩
    | false => exact ⟨_, .cons (.comma blank_nil blank_nil) head tail⟩

theorem forall_of_listed (listed : Listed P first items text) :
    ∀ item ∈ items, ∃ text, P item text := by
  induction listed with
  | nil => exact List.forall_mem_nil _
  | cons separator head tail ih => exact List.forall_mem_cons.mpr ⟨⟨_, head⟩, ih⟩

theorem rendered_array {trees : List Tree} :
    (Tree.array trees).Rendered ↔ ∀ tree ∈ trees, tree.Rendered := by
  constructor
  · rintro ⟨_, renders⟩
    cases renders with
    | array items blank => exact forall_of_listed items
  · intro texts
    obtain ⟨inner, items⟩ := listed_of_forall texts true
    exact ⟨_, .array items blank_nil⟩

/-- The trees of an array are those in front of one, that one, and those behind it. -/
theorem rendered_around {front back : List Tree} {tree : Tree} :
    (Tree.array (front ++ tree :: back)).Rendered ↔
      (∀ tree ∈ front, tree.Rendered) ∧ tree.Rendered ∧ ∀ tree ∈ back, tree.Rendered := by
  rw [rendered_array, List.forall_mem_append, List.forall_mem_cons]

theorem rendered_object {members : List (List Char × Tree)} :
    (Tree.object members).Rendered ↔
      ∀ member ∈ members, Quotable member.1 ∧ member.2.Rendered := by
  constructor
  · rintro ⟨_, renders⟩ member among
    cases renders with
    | object listed blank =>
      obtain ⟨_, written⟩ := forall_of_listed listed member among
      cases written with
      | mk quotable _ _ value => exact ⟨quotable, _, value⟩
  · intro texts
    have written : ∀ member ∈ members, ∃ text, MemberText Renders member text := by
      intro member among
      obtain ⟨quotable, text, value⟩ := texts member among
      exact ⟨_, .mk quotable blank_nil blank_nil value⟩
    obtain ⟨inner, listed⟩ := listed_of_forall written true
    exact ⟨_, .object listed blank_nil⟩

end Rendered

end IncompleteBeta.Json
