/-
**Fixtures and the presentation of their text.**

What is read of a text as a set of fixtures depends on the set alone, and not on how the text
presents it: on the white space between tokens, the order of members, members with other names, and
whether an optional member without a value is written.

* `regular_fixture`, `regular_fixtureSet`: the members of a case and of a set do not see each other;
* `nullable_fixture`: the optional members of a case may be written as `null`;
* `Edit`: what may be done to a set and to the cases in it;
* `Edit.makes`: an edited set makes the same set;
* **`presentation_ignored`**: a text that is read as a set is that of a tree, and every text of all
  that comes from that tree by edits is read as the same set.
-/

import Mathlib.Logic.Relation
import IncompleteBeta.Fixture.Basic
import IncompleteBeta.Proofs.Json.AnyOrder

namespace IncompleteBeta

open Json

/-! ### Cases -/

theorem settled_fixture : ∀ member ∈ Fixture.format.members, Settled member := by
  simp only [Fixture.format, List.forall_mem_cons, List.not_mem_nil, false_imp_iff, implies_true,
    and_true]
  exact ⟨settled_of faithful_string parses_string fun _ _ => rfl,
    settled_of faithful_name parses_name fun _ _ => rfl,
    settled_of faithful_float parses_float fun _ _ => rfl,
    settled_of faithful_float parses_float fun _ _ => rfl,
    settled_of faithful_float parses_float fun _ _ => rfl,
    .trailing (settled_of (faithful_optional faithful_float) (parses_optional parses_float)
      fun _ _ => rfl),
    .trailing (settled_of (faithful_optional faithful_float) (parses_optional parses_float)
      fun _ _ => rfl),
    .trailing (settled_of (faithful_optional faithful_string) (parses_optional parses_string)
      fun _ _ => rfl)⟩

theorem apart_fixture : Fixture.format.members.Pairwise Apart := by
  simp only [Fixture.format, List.pairwise_cons, List.forall_mem_cons, List.not_mem_nil,
    false_imp_iff, implies_true, and_true, List.Pairwise.nil]
  repeat' apply And.intro
  -- One goal for each two members; in an object it does not matter which of them may be omitted.
  all_goals
    try refine .trailing ?_
    try refine .symm (.trailing ?_)
    exact apart_of (fun _ _ _ => rfl) (fun _ _ => rfl) fun _ _ => rfl

/-- **The members of a case do not see each other.** -/
theorem regular_fixture : Regular Fixture.format where
  settled := settled_fixture
  apart := apart_fixture
  fresh := by
    simp only [Fixture.format, List.forall_mem_cons, List.not_mem_nil, false_imp_iff, implies_true,
      and_true]
    exact ⟨rfl, rfl, rfl, rfl, rfl, rfl, rfl, rfl⟩

def Fixture.memberNames : List String :=
  ["name", "function", "a", "b", "arg", "expected", "rel_tol", "expected_failure"]

def Fixture.optionalNames : List String := ["expected", "rel_tol", "expected_failure"]

/-- **The optional members of a case may be written as `null`.** -/
theorem nullable_fixture : ∀ name ∈ Fixture.optionalNames, Nullable Fixture.format name := by
  simp only [Fixture.optionalNames, List.forall_mem_cons, List.not_mem_nil, false_imp_iff,
    implies_true, and_true]
  refine ⟨nullable_of rfl ?_, nullable_of rfl ?_, nullable_of rfl ?_⟩
  all_goals
    rintro ⟨name, function, a, b, arg, expected, tolerance, expectedFailure⟩ absent
    cases absent
    rfl

theorem faithful_fixture : Faithful Fixture.format.read := faithful_record settled_fixture

/-! ### Sets -/

/-- **The members of a set do not see each other.** -/
theorem regular_fixtureSet : Regular FixtureSet.format where
  settled := by
    simp only [FixtureSet.format, List.forall_mem_cons, List.not_mem_nil, false_imp_iff,
      implies_true, and_true]
    exact ⟨settled_of faithful_string parses_string fun _ _ => rfl,
      settled_of faithful_string parses_string fun _ _ => rfl,
      settled_of (faithful_list faithful_fixture) (parses_list (parses_record settled_fixture))
        fun _ _ => rfl⟩
  apart := by
    simp only [FixtureSet.format, List.pairwise_cons, List.forall_mem_cons, List.not_mem_nil,
      false_imp_iff, implies_true, and_true, List.Pairwise.nil]
    repeat' apply And.intro
    all_goals exact apart_of (fun _ _ _ => rfl) (fun _ _ => rfl) fun _ _ => rfl
  fresh := by
    simp only [FixtureSet.format, List.forall_mem_cons, List.not_mem_nil, false_imp_iff,
      implies_true, and_true]
    exact ⟨rfl, rfl, rfl⟩

namespace FixtureSet

def memberNames : List String := ["version", "family", "cases"]

/-- **What may be done to the members of a set**: to those of the set itself, which has no optional
ones, and to those of a case among its cases. -/
inductive Edit : List (List Char × Tree) → List (List Char × Tree) → Prop where
  | set {members otherMembers : List (List Char × Tree)}
      (edited : Edited memberNames [] members otherMembers) : Edit members otherMembers
  | case {before after members otherMembers : List (List Char × Tree)} {key : List Char}
      {front back : List Tree} (names : Names key "cases")
      (edited : Edited Fixture.memberNames Fixture.optionalNames members otherMembers) :
      Edit (before ++ (key, .array (front ++ .object members :: back)) :: after)
        (before ++ (key, .array (front ++ .object otherMembers :: back)) :: after)

variable {members otherMembers : List (List Char × Tree)} {set : FixtureSet}

/-- **An edited set makes the same set.** -/
theorem Edit.makes (edit : Edit members otherMembers) (makes : Makes format members set) :
    Makes format otherMembers set := by
  cases edit with
  | set edited => exact edited.makes regular_fixtureSet (List.forall_mem_nil _) makes
  | @case before after _ _ key front back names edited =>
    have rendered := ((makes_iff regular_fixtureSet.settled).mp makes).1
    have cases := (rendered_object.mp rendered _
      (List.mem_append_right before List.mem_cons_self)).2
    obtain ⟨infront, object, behind⟩ := rendered_around.mp cases
    have casesEdited := rendered_around.mpr ⟨infront, edited.rendered object, behind⟩
    refine makes.replace names casesEdited ?_
    rintro member act ⟨rfl⟩
    refine acts_alike (faithful_list faithful_fixture) cases fun values => ?_
    refine readsTree_replace faithful_fixture cases fun fixture => ?_
    exact edited.readsTree regular_fixture nullable_fixture object

/-- **What is read of a text as a set does not depend on how the text presents it.** The text is
that of a tree; and if that is an object, every text of every object that comes from it by edits is
read as the same set, and there are such texts. -/
theorem presentation_ignored {text : String} (read : ofJson text = .ok set) :
    (∃ tree, Presents tree text.toList) ∧
      ∀ members otherMembers, Presents (.object members) text.toList →
        Relation.ReflTransGen Edit members otherMembers →
        (∃ otherText : String, Presents (.object otherMembers) otherText.toList) ∧
          ∀ otherText : String, Presents (.object otherMembers) otherText.toList →
            ofJson otherText = .ok set := by
  refine ⟨presents_of_whole (parses_record regular_fixtureSet.settled) read, ?_⟩
  intro members otherMembers presents edits
  have start : Makes format members set := by
    refine (makes_iff regular_fixtureSet.settled).mpr ⟨presents.rendered, ?_⟩
    exact readsTree_of_whole (faithful_record regular_fixtureSet.settled) read presents
  have makes : Makes format otherMembers set := by
    induction edits with
    | refl => exact start
    | tail _ edit ih => exact edit.makes ih
  obtain ⟨rendered, reads⟩ := (makes_iff regular_fixtureSet.settled).mp makes
  exact ⟨rendered.presents, fun otherText otherPresents => reads.whole otherPresents⟩

/-! ### A set with one case -/

def plainCase : List (List Char × Tree) :=
  [("name".toList, .string "n".toList), ("function".toList, .string "ibeta".toList),
    ("a".toList, .number ['1']), ("b".toList, .number ['2']), ("arg".toList, .number ['0'])]

def plainMembers : List (List Char × Tree) :=
  [("version".toList, .string "1".toList), ("family".toList, .string "f".toList),
    ("cases".toList, .array [.object plainCase])]

def plainText : String :=
  "\x7b\"version\":\"1\",\"family\":\"f\",\"cases\":[" ++
    "\x7b\"name\":\"n\",\"function\":\"ibeta\",\"a\":1,\"b\":2,\"arg\":0\x7d]\x7d"

/-- The same case the other way round, with `null` for the tolerance. -/
def nulledCase : List (List Char × Tree) := (("rel_tol".toList, .null) :: plainCase).reverse

/-- Half a character, which spells no string. -/
def halfCharacter : Tree := .string ['\\', 'u', 'd', '8', '0', '0']

/-- The same set the other way round, with the other case and with half a character as the value of
another member. -/
def notedMembers : List (List Char × Tree) :=
  [("cases".toList, .array [.object nulledCase]), ("family".toList, .string "f".toList),
    ("version".toList, .string "1".toList), ("note".toList, halfCharacter)]

def notedText : String :=
  "\x7b\"cases\": [ \x7b\"arg\": 0, \"b\": 2, \"a\": 1, \"function\": \"ibeta\", " ++
    "\"name\": \"n\", \"rel_tol\": null\x7d ], \"family\": \"f\", \"version\": \"1\", " ++
    "\"note\": \"\\ud800\"\x7d\n"

section Spelled

variable {name : String} {gap text : List Char} {tree : Tree} {digit : Char}

/-- A name without anything to escape spells itself. -/
theorem names_plain (plain : name.toList.flatMap escapedChar = name.toList) :
    Names name.toList name := by
  intro rest
  rw [stringRest, ← plain, stringFrom_escaped, List.reverse_nil, List.nil_append,
    String.ofList_toList]

theorem renders_plain (plain : name.toList.flatMap escapedChar = name.toList) :
    Renders (.string name.toList) ('\"' :: (name.toList ++ ['\"'])) :=
  .string (names_plain plain).quotable

theorem renders_digit (isDigit : digit.isDigit = true) : Renders (.number [digit]) [digit] := by
  have all : AllDigits [digit] := by simpa [AllDigits] using isDigit
  exact .number (@Numeral.mk false [digit] [] [] ⟨all, by simp, by simp⟩ (by simp [AllDigits])
    .none)

theorem memberText_plain (plain : name.toList.flatMap escapedChar = name.toList)
    (blank : Blank gap) (renders : Renders tree text) : MemberText Renders (name.toList, tree)
      ('\"' :: (name.toList ++ '\"' :: ([] ++ ':' :: (gap ++ text)))) :=
  .mk (names_plain plain).quotable blank_nil blank renders

end Spelled

theorem quotable_half : Quotable ['\\', 'u', 'd', '8', '0', '0'] :=
  @Quotable.unit ['d', '8', '0', '0'] [] rfl (List.all_eq_true.mp (by decide)) .nil

theorem presents_plain : Presents (.object plainMembers) plainText.toList := by
  have first : Separator true [] := .first blank_nil
  have comma : Separator false [','] := .comma blank_nil blank_nil
  have sole := Renders.object (.cons first
    (@memberText_plain "name" _ _ _ rfl blank_nil (@renders_plain "n" rfl)) (.cons comma
      (@memberText_plain "function" _ _ _ rfl blank_nil (@renders_plain "ibeta" rfl)) (.cons comma
        (@memberText_plain "a" _ _ _ rfl blank_nil (@renders_digit '1' rfl)) (.cons comma
          (@memberText_plain "b" _ _ _ rfl blank_nil (@renders_digit '2' rfl)) (.cons comma
            (@memberText_plain "arg" _ _ _ rfl blank_nil (@renders_digit '0' rfl))
              .nil))))) blank_nil
  have renders := Renders.object (.cons first
    (@memberText_plain "version" _ _ _ rfl blank_nil (@renders_plain "1" rfl)) (.cons comma
      (@memberText_plain "family" _ _ _ rfl blank_nil (@renders_plain "f" rfl)) (.cons comma
        (@memberText_plain "cases" _ _ _ rfl blank_nil
          (.array (.cons first sole .nil) blank_nil)) .nil))) blank_nil
  exact Presents.mk blank_nil renders blank_nil

set_option maxRecDepth 2000 in
theorem presents_noted : Presents (.object notedMembers) notedText.toList := by
  have space : Blank [' '] := blank_cons rfl blank_nil
  have newline : Blank ['\n'] := blank_cons rfl blank_nil
  have first : Separator true [] := .first blank_nil
  have spaced : Separator true [' '] := .first space
  have comma : Separator false [',', ' '] := .comma blank_nil space
  have sole := Renders.object (.cons first
    (@memberText_plain "arg" _ _ _ rfl space (@renders_digit '0' rfl)) (.cons comma
      (@memberText_plain "b" _ _ _ rfl space (@renders_digit '2' rfl)) (.cons comma
        (@memberText_plain "a" _ _ _ rfl space (@renders_digit '1' rfl)) (.cons comma
          (@memberText_plain "function" _ _ _ rfl space (@renders_plain "ibeta" rfl)) (.cons comma
            (@memberText_plain "name" _ _ _ rfl space (@renders_plain "n" rfl)) (.cons comma
              (@memberText_plain "rel_tol" _ _ _ rfl space .null) .nil)))))) blank_nil
  have renders := Renders.object (.cons first
    (@memberText_plain "cases" _ _ _ rfl space
      (.array (.cons spaced sole .nil) space)) (.cons comma
      (@memberText_plain "family" _ _ _ rfl space (@renders_plain "f" rfl)) (.cons comma
        (@memberText_plain "version" _ _ _ rfl space (@renders_plain "1" rfl)) (.cons comma
          (@memberText_plain "note" _ _ _ rfl space (.string quotable_half)) .nil)))) blank_nil
  exact Presents.mk blank_nil renders newline

theorem presentation_ignored_noted :
    ofJson plainText = .ok ⟨"1", "f", [⟨"n", .lowerTail, 1.0, 2.0, 0.0, none, none, none⟩]⟩ ∧
      ofJson notedText = .ok ⟨"1", "f", [⟨"n", .lowerTail, 1.0, 2.0, 0.0, none, none, none⟩]⟩ := by
  have read : ofJson plainText =
      .ok ⟨"1", "f", [⟨"n", .lowerTail, 1.0, 2.0, 0.0, none, none, none⟩]⟩ := by decide +kernel
  have names (name : String) (plain : name.toList.flatMap escapedChar = name.toList) :=
    @names_plain name plain
  let version : List Char × Tree := ("version".toList, .string "1".toList)
  let family : List Char × Tree := ("family".toList, .string "f".toList)
  let cases (members : List (List Char × Tree)) : List Char × Tree :=
    ("cases".toList, .array [.object members])
  have absent : ∀ written ∈ plainCase, ¬Names written.1 "rel_tol" := by
    simp only [plainCase, List.forall_mem_cons, List.not_mem_nil, false_imp_iff, implies_true,
      and_true]
    refine ⟨?_, ?_, ?_, ?_, ?_⟩
    all_goals
      exact fun same => absurd (same.unique (names_plain rfl)) (by decide)
  have nulled :
      Edit plainMembers [version, family, cases (("rel_tol".toList, .null) :: plainCase)] :=
    @Edit.case [version, family] [] _ _ _ [] [] (names "cases" rfl)
      (.nulled (names "rel_tol" rfl) (by decide) absent)
  have reversed : Edit [version, family, cases (("rel_tol".toList, .null) :: plainCase)]
      [version, family, cases nulledCase] :=
    @Edit.case [version, family] [] _ _ _ [] [] (names "cases" rfl)
      (.reordered (List.reverse_perm _).symm)
  have extended : Edit [version, family, cases nulledCase]
      [("note".toList, halfCharacter), version, family, cases nulledCase] :=
    .set (.extended (names "note" rfl) (by decide) ⟨_, .string quotable_half⟩)
  have reordered : Edit [("note".toList, halfCharacter), version, family, cases nulledCase]
      notedMembers := .set (.reordered (List.reverse_perm _).symm)
  have edits := (((Relation.ReflTransGen.single nulled).tail reversed).tail extended).tail reordered
  exact ⟨read, ((presentation_ignored read).2 _ _ presents_plain edits).2 _ presents_noted⟩

end FixtureSet

end IncompleteBeta
