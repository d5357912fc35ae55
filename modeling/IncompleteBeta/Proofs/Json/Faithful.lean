/-
**Readers that go by the syntax tree.**

A reader that once made a value of a text of a tree makes the same of every text of the tree: the
white space between the tokens is not seen.

* `ReadsTree`: a reader makes a value of every text of a tree;
* `Faithful`: what a reader makes of one text of a tree it makes of all;
* `faithful_string`, `faithful_float`, `faithful_optional`, `faithful_name`: single values;
* **`forall₂_of_items`**, **`faithful_list`**: lists, item by item;
* `parses_string`, `parses_float`, `parses_optional`, `parses_name`, `parses_list`: what these
  readers read was the text of a tree.
-/

import IncompleteBeta.Proofs.Json.Accepted
import IncompleteBeta.Proofs.Json.Layout

namespace IncompleteBeta.Json

variable {α β : Type}

/-- **A reader makes a value of every text of a tree.** -/
def ReadsTree (reader : Reader α) (tree : Tree) (value : α) : Prop :=
  ∀ ⦃text : List Char⦄, Renders tree text → Reads reader text (.ok value)

/-- **What a reader makes of one text of a tree it makes of all.** -/
def Faithful (reader : Reader α) : Prop :=
  ∀ ⦃tree : Tree⦄ ⦃text before rest otherRest : List Char⦄ ⦃value : α⦄, Renders tree text →
    Blank before → NumberEnd rest → reader (before ++ (text ++ rest)) = .ok (value, otherRest) →
      ReadsTree reader tree value

section Single

variable {reader item : Reader α} {tree : Tree} {value otherValue : α}
  {key spelling text before rest otherRest : List Char} {name : String} {c : Char}

/-- A reader that goes by the tree leaves what follows its text. -/
theorem Faithful.reads (faithful : Faithful reader) (renders : Renders tree text)
    (blank : Blank before) (ends : NumberEnd rest)
    (read : reader (before ++ (text ++ rest)) = .ok (value, otherRest)) :
    ReadsTree reader tree value ∧ otherRest = rest := by
  have reads := faithful renders blank ends read
  have again := read.symm.trans (reads renders blank ends)
  cases again
  exact ⟨reads, rfl⟩

/-- A tree that has a text is read as one value. -/
theorem ReadsTree.unique (reads : ReadsTree reader tree value)
    (otherReads : ReadsTree reader tree otherValue) (rendered : tree.Rendered) :
    value = otherValue := by
  obtain ⟨text, renders⟩ := rendered
  have same := (reads renders blank_nil numberEnd_nil).symm.trans
    (otherReads renders blank_nil numberEnd_nil)
  cases same
  rfl

/-! ### The kind of a tree -/

theorem Begins.eq_null (begins : Begins tree 'n') : tree = .null := by
  cases begins with
  | null => rfl
  | number leading => exact absurd leading (by decide)

theorem Begins.ne_null (begins : Begins tree c) (letter : c ≠ 'n') : tree ≠ .null := by
  rintro rfl
  cases begins
  exact letter rfl

theorem Begins.eq_string (begins : Begins tree '\"') : ∃ spelling, tree = .string spelling := by
  cases begins with
  | string => exact ⟨_, rfl⟩
  | number leading => exact absurd leading (by decide)

theorem Begins.eq_array (begins : Begins tree '[') : ∃ trees, tree = .array trees := by
  cases begins with
  | array => exact ⟨_, rfl⟩
  | number leading => exact absurd leading (by decide)

theorem Begins.eq_object (begins : Begins tree '\x7b') : ∃ members, tree = .object members := by
  cases begins with
  | object => exact ⟨_, rfl⟩
  | number leading => exact absurd leading (by decide)

theorem Begins.eq_number (begins : Begins tree c) (starts : startsNumber [c] = true) :
    ∃ spelling, tree = .number spelling := by
  cases begins with
  | number leading => exact ⟨_, rfl⟩
  | _ => exact absurd starts (by decide)

/-! ### Strings -/

theorem readsTree_string (names : Names key name) : ReadsTree readString (.string key) name := by
  intro text renders before rest blank _
  cases renders with
  | string quotable =>
    rw [List.cons_append, List.append_assoc, readString, skipSpace_token blank (by decide)]
    exact names rest

/-- What is read of the text of a string. -/
theorem names_of_stringText (quotable : Quotable spelling)
    (read : stringRest (spelling ++ ['\"'] ++ rest) = .ok (name, otherRest)) :
    Names spelling name ∧ otherRest = rest := by
  rw [List.append_assoc] at read
  exact names_of_read quotable read

theorem faithful_string : Faithful readString := by
  intro tree text before rest otherRest value renders blank ends read
  obtain ⟨c, others, rfl, begins⟩ := renders_eq_cons renders
  rw [List.cons_append, readString, skipSpace_token blank begins.token.1] at read
  split at read
  next same =>
    cases same
    obtain ⟨spelling, rfl⟩ := begins.eq_string
    cases renders with
    | string quotable => exact readsTree_string (names_of_stringText quotable read).1
  next => exact absurd read (mismatched_ne_ok _ _ _)

theorem parses_string : Parses readString := by
  intro text value rest read
  obtain ⟨gap, blank, text_eq⟩ := skipSpace_eq text
  unfold readString at read
  split at read
  next others tokens =>
    obtain ⟨spelling, quotable, rfl⟩ := quotable_of_stringRest read
    refine parses_token blank (tokens ▸ text_eq) ⟨_, _, .string quotable, ?_⟩
    simp only [List.cons_append, List.append_assoc, List.nil_append]
  next => exact absurd read (mismatched_ne_ok _ _ _)

/-! ### Numbers -/

/-- The double that a number is taken for. -/
def Number.toFloat : Number → Float
  | .integer value => (Decimal.mk value.natAbs 0).toFloat (decide (value < 0))
  | .float value => value

theorem readFloat_number (blank : Blank before) (numeral : Numeral spelling) (rest : List Char) :
    readFloat (before ++ (spelling ++ rest)) =
      (readNumber (spelling ++ rest)).map fun found => (found.1.toFloat, found.2) := by
  obtain ⟨skipped, starts⟩ := startsNumber_skipSpace rest blank numeral.eq_cons
  unfold readFloat
  rw [skipped]
  dsimp only
  rw [if_pos starts]
  cases readNumber (spelling ++ rest) with
  | error fault => rfl
  | ok found =>
    obtain ⟨number, left⟩ := found
    cases number <;> rfl

theorem faithful_float : Faithful readFloat := by
  intro tree text before rest otherRest value renders blank ends read
  obtain ⟨c, others, rfl, begins⟩ := renders_eq_cons renders
  by_cases starts : startsNumber [c] = true
  · obtain ⟨spelling, rfl⟩ := begins.eq_number starts
    cases renders with
    | number numeral =>
      obtain ⟨outcome, parts⟩ := readNumber_numeral numeral
      rw [readFloat_number blank numeral, parts rest ends] at read
      cases outcome with
      | error fault => cases read
      | ok number =>
        cases read
        intro text renders otherBefore rest otherBlank otherEnds
        cases renders with
        | number numeral =>
          rw [readFloat_number otherBlank numeral, parts rest otherEnds]
          rfl
  · rw [List.cons_append, readFloat, skipSpace_token blank begins.token.1] at read
    exact absurd ((if_neg starts).symm.trans read) (mismatched_ne_ok _ _ _)

theorem parses_float : Parses readFloat := by
  intro text value rest read
  obtain ⟨gap, blank, text_eq⟩ := skipSpace_eq text
  unfold readFloat at read
  dsimp only at read
  split at read
  next =>
    obtain ⟨⟨number, left⟩, reads, same⟩ := map_eq_ok.mp read
    obtain ⟨spelling, numeral, tokens⟩ := numeral_of_readNumber reads
    have left_eq : left = rest := by
      cases number <;>
        cases same <;>
        rfl
    exact parses_token blank text_eq ⟨_, _, .number numeral, left_eq ▸ tokens⟩
  next => exact absurd read (mismatched_ne_ok _ _ _)

/-! ### Values that may be absent -/

theorem readsTree_none (item : Reader α) : ReadsTree (readOptional item) .null none := by
  intro text renders
  cases renders
  exact reads_none item

theorem readsTree_some (reads : ReadsTree item tree value) (present : tree ≠ .null) :
    ReadsTree (readOptional item) tree (some value) := by
  intro text renders before rest blank ends
  have read := reads renders blank_nil ends
  obtain ⟨c, others, rfl, begins⟩ := renders_eq_cons renders
  rw [List.cons_append, readOptional, skipSpace_token blank begins.token.1]
  split
  next same =>
    cases same
    exact absurd begins.eq_null present
  next => exact congrArg (Except.map _) read

theorem faithful_optional (faithful : Faithful item) : Faithful (readOptional item) := by
  intro tree text before rest otherRest value renders blank ends read
  obtain ⟨c, others, rfl, begins⟩ := renders_eq_cons renders
  rw [List.cons_append, readOptional, skipSpace_token blank begins.token.1] at read
  split at read
  next same =>
    cases same
    obtain ⟨left, _, same⟩ := map_eq_ok.mp read
    cases same
    rw [begins.eq_null]
    exact readsTree_none item
  next other =>
    obtain ⟨⟨found, left⟩, reads, same⟩ := map_eq_ok.mp read
    cases same
    have letter : c ≠ 'n' := by
      rintro rfl
      exact other _ rfl
    exact readsTree_some (faithful renders blank_nil ends reads) (begins.ne_null letter)

theorem parses_optional (parses : Parses item) : Parses (readOptional item) := by
  intro text value rest read
  obtain ⟨gap, blank, text_eq⟩ := skipSpace_eq text
  unfold readOptional at read
  split at read
  next others tokens =>
    obtain ⟨left, null, same⟩ := map_eq_ok.mp read
    cases same
    refine parses_token blank (tokens ▸ text_eq) ⟨.null, _, .null, ?_⟩
    rw [eq_of_literal null]
    rfl
  next =>
    obtain ⟨⟨found, left⟩, reads, same⟩ := map_eq_ok.mp read
    cases same
    obtain ⟨otherGap, tree, body, otherBlank, renders, tokens⟩ := parses reads
    refine ⟨gap ++ otherGap, tree, body, List.forall_mem_append.mpr ⟨blank, otherBlank⟩, renders,
      ?_⟩
    rw [List.append_assoc, ← tokens, ← text_eq]

/-! ### Names -/

/-- Only `null` is read as such. -/
theorem null_of_read (renders : Renders tree text) (blank : Blank before)
    (read : readNull (before ++ (text ++ rest)) = .ok ((), otherRest)) :
    tree = .null ∧ otherRest = rest := by
  obtain ⟨c, others, rfl, begins⟩ := renders_eq_cons renders
  rw [List.cons_append, readNull, skipSpace_token blank begins.token.1] at read
  split at read
  next same =>
    cases same
    obtain ⟨left, literal, same⟩ := map_eq_ok.mp read
    cases same
    have null := begins.eq_null
    subst null
    cases renders
    have leaves := (literal_append ['u', 'l', 'l'] rest).symm.trans literal
    cases leaves
    exact ⟨rfl, rfl⟩
  next => exact absurd read (mismatched_ne_ok _ _ _)

theorem readNull_blank (blank : Blank before) (rest : List Char) :
    readNull (before ++ 'n' :: 'u' :: 'l' :: 'l' :: rest) = .ok ((), rest) := by
  rw [readNull, skipSpace_token blank (by decide)]
  exact congrArg (Except.map _) (literal_append ['u', 'l', 'l'] rest)

theorem eq_of_readNull (read : readNull text = .ok ((), rest)) :
    ∃ gap, Blank gap ∧ text = gap ++ 'n' :: 'u' :: 'l' :: 'l' :: rest := by
  obtain ⟨gap, blank, text_eq⟩ := skipSpace_eq text
  unfold readNull at read
  split at read
  next others tokens =>
    obtain ⟨left, null, same⟩ := map_eq_ok.mp read
    cases same
    refine ⟨gap, blank, text_eq.trans ?_⟩
    rw [tokens, eq_of_literal null]
    rfl
  next => exact absurd read (mismatched_ne_ok _ _ _)

/-- The token behind white space is the wanted one. -/
theorem token_eq_of_punctuation {wanted : Char}
    (read : punctuation wanted (before ++ c :: rest) = .ok otherRest) (blank : Blank before)
    (token : isSpace c = false) : c = wanted := by
  rw [punctuation, skipSpace_token blank token] at read
  by_contra other
  cases (if_neg other).symm.trans read

section Names

variable {known : List (String × α)}

theorem readsTree_name (names : Names key name) (meant : resolve known name = .ok value) :
    ReadsTree (readName known) (.string key) value := by
  intro text renders before rest blank _
  cases renders with
  | string quotable =>
    rw [List.cons_append, List.append_assoc, readName, skipSpace_token blank (by decide)]
    show (stringRest (key ++ '\"' :: rest) >>= _) = _
    rw [names rest]
    show (resolve known name >>= _) = _
    rw [meant]
    rfl

/-- A name in the form of an object. -/
theorem readsTree_variant (names : Names key name) (meant : resolve known name = .ok value) :
    ReadsTree (readName known) (.object [(key, .null)]) value := by
  intro text renders before rest blank _
  cases renders with
  | object listed otherBlank =>
    cases listed with
    | cons separator head tail =>
      cases tail
      cases separator with
      | first opened =>
        cases head with
        | mk quotable blank₁ blank₂ value =>
          cases value
          simp only [List.append_assoc, List.cons_append, List.nil_append]
          rw [readName, skipSpace_token blank (by decide)]
          show (openKey _ >>= fun opened => stringRest opened >>= _) = _
          rw [openKey, punctuation_blank _ opened (by decide)]
          show (stringRest _ >>= _) = _
          rw [names]
          show (resolve known name >>= _) = _
          rw [meant]
          show (colon _ >>= _) = _
          rw [colon_blank blank₁]
          show (readNull _ >>= _) = _
          rw [readNull_blank blank₂]
          show (closeObject _ >>= _) = _
          rw [closeObject, punctuation_blank rest otherBlank (by decide)]
          rfl

/-- Where a name in the form of an object comes from. -/
theorem variant_eq_ok
    (read : readName known (before ++ '\x7b' :: text) = .ok (value, rest))
    (blank : Blank before) :
    ∃ opened name left marked ended, openKey text = .ok opened ∧
      stringRest opened = .ok (name, left) ∧ resolve known name = .ok value ∧
      colon left = .ok marked ∧ readNull marked = .ok ((), ended) ∧
      closeObject ended = .ok rest := by
  rw [readName, skipSpace_token blank (by decide)] at read
  obtain ⟨opened, opens, read⟩ := bind_eq_ok.mp read
  obtain ⟨⟨name, left⟩, reads, read⟩ := bind_eq_ok.mp read
  obtain ⟨meant, means, read⟩ := bind_eq_ok.mp read
  obtain ⟨marked, marks, read⟩ := bind_eq_ok.mp read
  obtain ⟨⟨_, ended⟩, null, read⟩ := bind_eq_ok.mp read
  obtain ⟨last, closed, read⟩ := bind_eq_ok.mp read
  cases read
  exact ⟨opened, name, left, marked, ended, opens, reads, means, marks, null, closed⟩

/-- The object has one member, with a known name and nothing in it. -/
theorem faithful_variant {members : List (List Char × Tree)}
    (renders : Renders (.object members) text) (blank : Blank before)
    (read : readName known (before ++ (text ++ rest)) = .ok (value, otherRest)) :
    ReadsTree (readName known) (.object members) value := by
  cases renders with
  | object listed otherBlank =>
    simp only [List.cons_append, List.append_assoc, List.nil_append] at read
    obtain ⟨opened, name, left, marked, ended, opens, reads, means, marks, null, closed⟩ :=
      variant_eq_ok read blank
    cases listed with
    | nil => exact absurd (token_eq_of_punctuation opens otherBlank (by decide)) (by decide)
    | cons separator head tail =>
      cases separator with
      | first gap =>
        cases head with
        | mk quotable blank₁ blank₂ value =>
          simp only [List.cons_append, List.append_assoc] at opens
          cases (punctuation_blank _ gap (by decide)).symm.trans opens
          obtain ⟨names, rfl⟩ := names_of_read quotable reads
          cases (colon_blank blank₁ _).symm.trans marks
          obtain ⟨rfl, rfl⟩ := null_of_read value blank₂ null
          cases tail with
          | nil => exact readsTree_variant names means
          | cons otherSeparator otherHead otherTail =>
            cases otherSeparator with
            | comma otherBefore otherAfter =>
              simp only [List.cons_append, List.append_assoc] at closed
              exact absurd (token_eq_of_punctuation closed otherBefore (by decide)) (by decide)

theorem faithful_name : Faithful (readName known) := by
  intro tree text before rest otherRest value renders blank ends read
  obtain ⟨c, others, rfl, begins⟩ := renders_eq_cons renders
  have tokens := read
  rw [List.cons_append, readName, skipSpace_token blank begins.token.1] at tokens
  split at tokens
  next => cases tokens
  next same =>
    cases same
    obtain ⟨spelling, rfl⟩ := begins.eq_string
    obtain ⟨⟨name, left⟩, reads, meant⟩ := bind_eq_ok.mp tokens
    obtain ⟨meaning, means, same⟩ := bind_eq_ok.mp meant
    cases same
    cases renders with
    | string quotable => exact readsTree_name (names_of_stringText quotable reads).1 means
  next same =>
    cases same
    obtain ⟨members, rfl⟩ := begins.eq_object
    exact faithful_variant renders blank read
  next => cases tokens

theorem parses_name : Parses (readName known) := by
  intro text value rest read
  obtain ⟨gap, blank, text_eq⟩ := skipSpace_eq text
  have tokens := read
  unfold readName at tokens
  split at tokens
  next => cases tokens
  next others token =>
    obtain ⟨⟨name, left⟩, reads, meant⟩ := bind_eq_ok.mp tokens
    obtain ⟨meaning, means, same⟩ := bind_eq_ok.mp meant
    cases same
    obtain ⟨spelling, quotable, rfl⟩ := quotable_of_stringRest reads
    refine parses_token blank (token ▸ text_eq) ⟨_, _, .string quotable, ?_⟩
    simp only [List.cons_append, List.append_assoc, List.nil_append]
  next others token =>
    rw [text_eq, token] at read
    obtain ⟨opened, name, left, marked, ended, opens, reads, means, marks, null, closed⟩ :=
      variant_eq_ok read blank
    obtain ⟨otherGap, opening, rfl⟩ := eq_of_punctuation opens
    obtain ⟨key, quotable, rfl⟩ := quotable_of_stringRest reads
    obtain ⟨gap₁, blank₁, rfl⟩ := eq_of_punctuation marks
    obtain ⟨gap₂, blank₂, rfl⟩ := eq_of_readNull null
    obtain ⟨last, closing, rfl⟩ := eq_of_punctuation closed
    refine parses_token blank (token ▸ text_eq) ⟨_, _, .object (.cons (.first opening)
      (.mk quotable blank₁ blank₂ .null) .nil) closing, ?_⟩
    simp only [List.cons_append, List.append_assoc, List.nil_append]
  next => cases tokens

end Names

end Single

/-! ### Lists -/

section Lists

variable {item : Reader α} {trees : List Tree} {values : List α} {first : Bool}
  {inner gap rest otherRest : List Char}

/-- **What was made of a list was made item by item.** -/
theorem forall₂_of_items (faithful : Faithful item) (listed : Listed Renders first trees inner)
    (blank : Blank gap) {fuel : Nat}
    (reads : items item fuel first (inner ++ (gap ++ ']' :: rest)) = .ok (values, otherRest)) :
    List.Forall₂ (ReadsTree item) trees values := by
  induction listed generalizing values fuel with
  | nil =>
    cases fuel with
    | zero => cases reads
    | succ fuel =>
      obtain ⟨left, another, closed, rfl⟩ | ⟨left, head, otherLeft, tail, another, -⟩ :=
        items_eq_ok reads
      · exact .nil
      · cases (anotherItem_close _ blank rest).symm.trans another
  | cons separator head tail ih =>
    cases fuel with
    | zero => cases reads
    | succ fuel =>
      rw [List.append_assoc, List.append_assoc] at reads
      have follows := anotherItem_separator separator (itemText_of_renders head)
      obtain ⟨left, another, -⟩ | ⟨left, value, otherLeft, values, another, read, others, rfl⟩ :=
        items_eq_ok reads
      · cases (follows _).symm.trans another
      · cases (follows _).symm.trans another
        obtain ⟨reads, rfl⟩ :=
          faithful.reads head blank_nil (numberEnd_listed tail blank (.inl rfl) rest) read
        exact .cons reads (ih others)

theorem readsTree_array (reads : List.Forall₂ (ReadsTree item) trees values) :
    ReadsTree (readList item) (.array trees) values := by
  intro text renders before rest blank _
  cases renders with
  | array listed otherBlank =>
    simp only [List.cons_append, List.append_assoc, List.nil_append]
    rw [readList, skipSpace_token blank (by decide)]
    refine items_listed listed otherBlank (fun _ _ => itemText_of_renders)
      (reads.imp fun _ _ each text renders => @each text renders) ?_ rest
    have := listed.length_le fun _ _ => renders_ne_nil
    rw [List.length_append]
    omega

/-- **A list that was read is made of values of its items.** -/
theorem forall₂_of_readList (faithful : Faithful item) {text before : List Char}
    (renders : Renders (.array trees) text) (blank : Blank before)
    (read : readList item (before ++ (text ++ rest)) = .ok (values, otherRest)) :
    List.Forall₂ (ReadsTree item) trees values := by
  cases renders with
  | array listed otherBlank =>
    simp only [List.cons_append, List.append_assoc, List.nil_append] at read
    rw [readList, skipSpace_token blank (by decide)] at read
    exact forall₂_of_items faithful listed otherBlank read

theorem faithful_list (faithful : Faithful item) : Faithful (readList item) := by
  intro tree text before rest otherRest values renders blank ends read
  obtain ⟨c, others, rfl, begins⟩ := renders_eq_cons renders
  have tokens := read
  rw [List.cons_append, readList, skipSpace_token blank begins.token.1] at tokens
  split at tokens
  next same =>
    cases same
    obtain ⟨trees, rfl⟩ := begins.eq_array
    exact readsTree_array (forall₂_of_readList faithful renders blank read)
  next => exact absurd tokens (mismatched_ne_ok _ _ _)

section Replaced

variable {front back : List Tree} {tree otherTree : Tree}

theorem forall₂_replace
    (alike : ∀ value, ReadsTree item tree value → ReadsTree item otherTree value)
    (each : List.Forall₂ (ReadsTree item) (front ++ tree :: back) values) :
    List.Forall₂ (ReadsTree item) (front ++ otherTree :: back) values := by
  induction front generalizing values with
  | nil =>
    cases each with
    | cons head tail => exact .cons (alike _ head) tail
  | cons first front ih =>
    cases each with
    | cons head tail => exact .cons head (ih tail)

/-- An item of a list may be replaced by one that is read alike. -/
theorem readsTree_replace (faithful : Faithful item)
    (rendered : (Tree.array (front ++ tree :: back)).Rendered)
    (alike : ∀ value, ReadsTree item tree value → ReadsTree item otherTree value)
    (reads : ReadsTree (readList item) (.array (front ++ tree :: back)) values) :
    ReadsTree (readList item) (.array (front ++ otherTree :: back)) values := by
  obtain ⟨text, renders⟩ := rendered
  have read := reads renders blank_nil numberEnd_nil
  exact readsTree_array
    (forall₂_replace alike (forall₂_of_readList faithful renders blank_nil read))

end Replaced

theorem parses_list (parses : Parses item) : Parses (readList item) := by
  intro text values rest read
  obtain ⟨gap, blank, text_eq⟩ := skipSpace_eq text
  unfold readList at read
  split at read
  next others tokens =>
    obtain ⟨trees, inner, otherGap, listed, otherBlank, rfl⟩ := listed_of_items parses read
    refine parses_token blank (tokens ▸ text_eq) ⟨_, _, .array listed otherBlank, ?_⟩
    simp only [List.cons_append, List.append_assoc, List.nil_append]
  next => exact absurd read (mismatched_ne_ok _ _ _)

end Lists

/-! ### Whole texts -/

section Whole

variable {reader : Reader α} {tree : Tree} {text : String} {value : α}

/-- What is read of a whole text ends in white space. -/
theorem whole_eq_ok (read : whole reader text = .ok value) :
    ∃ rest, Blank rest ∧ reader text.toList = .ok (value, rest) := by
  obtain ⟨⟨found, rest⟩, reads, ended⟩ := bind_eq_ok.mp read
  dsimp only at ended
  split at ended
  next none =>
    cases ended
    obtain ⟨gap, blank, rest_eq⟩ := skipSpace_eq rest
    rw [List.isEmpty_iff.mp none, List.append_nil] at rest_eq
    exact ⟨rest, rest_eq ▸ blank, reads⟩
  next => cases ended

theorem numberEnd_of_blank {rest : List Char} (blank : Blank rest) : NumberEnd rest := by
  rw [← List.append_nil rest]
  exact numberEnd_blank blank numberEnd_nil

/-- **Every whole text of a tree is read as the value of the tree.** -/
theorem ReadsTree.whole (reads : ReadsTree reader tree value)
    (presents : Presents tree text.toList) : whole reader text = .ok value := by
  unfold Json.whole
  generalize text.toList = characters at presents ⊢
  cases presents with
  | @mk _ _ after blank renders otherBlank =>
    have ended : skipSpace after = [] := by
      rw [← List.append_nil after, skipSpace_blank otherBlank]
      rfl
    rw [reads renders blank (numberEnd_of_blank otherBlank), Except.map, ok_bind]
    dsimp only
    rw [ended]
    rfl

/-- **What is read of a whole text is the value of its tree.** -/
theorem readsTree_of_whole (faithful : Faithful reader) (read : Json.whole reader text = .ok value)
    (presents : Presents tree text.toList) : ReadsTree reader tree value := by
  obtain ⟨rest, -, reads⟩ := whole_eq_ok read
  generalize text.toList = characters at presents reads
  cases presents with
  | mk blank renders otherBlank =>
    exact faithful renders blank (numberEnd_of_blank otherBlank) reads

/-- **A whole text that is read is the text of a tree.** -/
theorem presents_of_whole (parses : Parses reader) (read : Json.whole reader text = .ok value) :
    ∃ tree, Presents tree text.toList := by
  obtain ⟨rest, otherBlank, reads⟩ := whole_eq_ok read
  obtain ⟨gap, tree, body, blank, renders, text_eq⟩ := parses reads
  exact ⟨tree, text_eq ▸ .mk blank renders otherBlank⟩

theorem Presents.rendered {characters : List Char} (presents : Presents tree characters) :
    tree.Rendered := by
  cases presents with
  | mk _ renders _ => exact ⟨_, renders⟩

/-- A tree that has a text has a whole one. -/
theorem Tree.Rendered.presents (rendered : tree.Rendered) :
    ∃ text : String, Presents tree text.toList := by
  obtain ⟨body, renders⟩ := rendered
  refine ⟨String.ofList ([] ++ (body ++ [])), ?_⟩
  rw [String.toList_ofList]
  exact .mk blank_nil renders blank_nil

end Whole

end IncompleteBeta.Json
