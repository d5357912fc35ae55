/-
**Reading along a syntax tree.**

The loops that read items and members go along the text of a tree item by item, and what they read
was the text of a tree. A value that nobody wants is skipped exactly where it ends, however deep it
nests.

* `anotherItem_separator`, `anotherKey_separator`: what stands between items is read over;
* **`items_listed`**, `members_listed`: the loops along items and members;
* **`skipValue_renders`**: a value is skipped to its end;
* `Parses`: what a reader reads was the text of a tree;
* `listed_of_items`, `listed_of_members`, **`parses_skipValue`**: so it is for loops and for values
  that nobody wants.
-/

import IncompleteBeta.Proofs.Json.Records
import IncompleteBeta.Proofs.Json.Spelling
import Mathlib.Data.List.Forall2

namespace IncompleteBeta.Json

variable {α β ι : Type}

/-! ### White space and separators -/

section Separators

variable {first more : Bool} {before gap text rest others : List Char} {c : Char} {tree : Tree}

/-- A token that may begin an item. -/
def ItemText (text : List Char) : Prop :=
  ∃ c others, text = c :: others ∧ isSpace c = false ∧ c ≠ ']'

theorem Begins.token (begins : Begins tree c) : isSpace c = false ∧ c ≠ ']' := by
  cases begins with
  | number leading =>
    obtain ⟨space, bracket, -⟩ := token_of_number leading
    exact ⟨space, bracket⟩
  | _ => decide

theorem itemText_of_renders (renders : Renders tree text) : ItemText text := by
  obtain ⟨c, others, rfl, begins⟩ := renders_eq_cons renders
  exact ⟨c, others, rfl, begins.token⟩

theorem renders_ne_nil (renders : Renders tree text) : text ≠ [] := by
  obtain ⟨c, others, rfl, -⟩ := renders_eq_cons renders
  exact List.cons_ne_nil _ _

theorem Separator.append (separator : Separator first gap) (blank : Blank before) :
    Separator first (gap ++ before) := by
  cases separator with
  | first otherBlank => exact .first (List.forall_mem_append.mpr ⟨otherBlank, blank⟩)
  | comma otherBlank thirdBlank =>
    rw [List.append_assoc, List.cons_append]
    exact .comma otherBlank (List.forall_mem_append.mpr ⟨thirdBlank, blank⟩)

theorem anotherItem_separator (separator : Separator first gap) (token : ItemText text)
    (rest : List Char) : anotherItem first (gap ++ (text ++ rest)) = .ok (true, text ++ rest) := by
  obtain ⟨c, others, rfl, space, bracket⟩ := token
  cases separator with
  | first blank =>
    rw [List.cons_append, anotherItem, skipSpace_token blank space]
    simp [bracket]
  | comma blank otherBlank =>
    rw [List.append_assoc, List.cons_append, anotherItem, skipSpace_token blank (by decide)]
    simp [skipSpace_token otherBlank space, bracket]

theorem anotherKey_separator (separator : Separator first gap) (rest : List Char) :
    anotherKey first (gap ++ '\"' :: rest) = .ok (true, rest) := by
  cases separator with
  | first blank =>
    rw [anotherKey, skipSpace_token blank (by decide)]
    rfl
  | comma blank otherBlank =>
    rw [List.append_assoc, List.cons_append, anotherKey, skipSpace_token blank (by decide)]
    simp [skipSpace_token otherBlank (show isSpace '\"' = false by rfl)]

/-- What is left behind white space. -/
theorem skipSpace_eq (text : List Char) : ∃ gap, Blank gap ∧ text = gap ++ skipSpace text :=
  ⟨text.takeWhile isSpace, List.all_eq_true.mp List.all_takeWhile,
    List.takeWhile_append_dropWhile.symm⟩

/-- What is left begins with a token. -/
theorem isSpace_of_skipSpace (left : skipSpace text = c :: others) : isSpace c = false := by
  induction text with
  | nil => cases left
  | cons d text ih =>
    cases space : isSpace d with
    | true => exact ih ((List.dropWhile_cons_of_pos space).symm.trans left)
    | false =>
      rw [skipSpace_cons space] at left
      cases left
      exact space

theorem eq_of_punctuation {wanted : Char} (reads : punctuation wanted text = .ok rest) :
    ∃ gap, Blank gap ∧ text = gap ++ wanted :: rest := by
  obtain ⟨gap, blank, text_eq⟩ := skipSpace_eq text
  unfold punctuation at reads
  split at reads
  · cases reads
  next c others tokens =>
    split_ifs at reads with same
    cases reads
    exact ⟨gap, blank, by rw [← same, ← tokens, ← text_eq]⟩

/-- What comes after a closing bracket, or after what stands in front of an item. -/
theorem eq_of_anotherItem (reads : anotherItem first text = .ok (more, rest)) :
    (more = false ∧ ∃ gap others, Blank gap ∧ rest = ']' :: others ∧ text = gap ++ rest) ∨
      (more = true ∧ ∃ gap, Separator first gap ∧ text = gap ++ rest) := by
  obtain ⟨gap, blank, text_eq⟩ := skipSpace_eq text
  unfold anotherItem at reads
  split at reads
  · cases reads
  next c others tokens =>
    rw [tokens] at text_eq
    split_ifs at reads with close start comma
    · cases reads
      exact .inl ⟨rfl, gap, others, blank, by rw [close], text_eq⟩
    · cases reads
      rw [start]
      exact .inr ⟨rfl, gap, .first blank, text_eq⟩
    · obtain ⟨otherGap, otherBlank, others_eq⟩ := skipSpace_eq others
      split at reads
      · cases reads
      next d otherOthers otherTokens =>
        split_ifs at reads with last
        cases reads
        rw [Bool.eq_false_iff.mpr start]
        refine .inr ⟨rfl, _, .comma blank otherBlank, ?_⟩
        rw [text_eq, comma, others_eq, otherTokens, List.append_assoc, List.cons_append]

/-- What comes after a closing brace, or after the opening quote of a key. -/
theorem eq_of_anotherKey (reads : anotherKey first text = .ok (more, rest)) :
    (more = false ∧ ∃ gap others, Blank gap ∧ rest = '\x7d' :: others ∧ text = gap ++ rest) ∨
      (more = true ∧ ∃ gap, Separator first gap ∧ text = gap ++ '\"' :: rest) := by
  obtain ⟨gap, blank, text_eq⟩ := skipSpace_eq text
  unfold anotherKey at reads
  split at reads
  · cases reads
  next c others tokens =>
    rw [tokens] at text_eq
    split_ifs at reads with close start quote comma
    · cases reads
      exact .inl ⟨rfl, gap, others, blank, by rw [close], text_eq⟩
    · cases reads
      rw [start]
      exact .inr ⟨rfl, gap, .first blank, by rw [text_eq, quote]⟩
    · obtain ⟨otherGap, otherBlank, others_eq⟩ := skipSpace_eq others
      split at reads
      · cases reads
      next d otherOthers otherTokens =>
        split_ifs at reads with opened
        cases reads
        rw [Bool.eq_false_iff.mpr start]
        refine .inr ⟨rfl, _, .comma blank otherBlank, ?_⟩
        rw [text_eq, comma, others_eq, otherTokens, opened, List.append_assoc, List.cons_append]

end Separators

/-! ### Items -/

section Listed

variable {P Q : ι → List Char → Prop} {first : Bool} {xs : List ι} {inner gap : List Char}

theorem Listed.imp (listed : Listed P first xs inner)
    (implies : ∀ x text, P x text → Q x text) : Listed Q first xs inner := by
  induction listed with
  | nil => exact .nil
  | cons separator head tail ih => exact .cons separator (implies _ _ head) ih

/-- The texts of items are no longer than the text of all of them. -/
theorem Listed.short (listed : Listed P first xs inner) :
    Listed (fun x text => P x text ∧ text.length ≤ inner.length) first xs inner := by
  induction listed with
  | nil => exact .nil
  | cons separator head tail ih =>
    refine .cons separator ⟨head, ?_⟩ (ih.imp fun x text ⟨holds, short⟩ => ⟨holds, ?_⟩)
    · simp only [List.length_append]
      omega
    · simp only [List.length_append]
      omega

theorem Listed.length_le (listed : Listed P first xs inner)
    (nonempty : ∀ x text, P x text → text ≠ []) : xs.length ≤ inner.length := by
  induction listed with
  | nil => exact Nat.zero_le _
  | cons separator head tail ih =>
    have := List.length_pos_iff.mpr (nonempty _ _ head)
    simp only [List.length_append, List.length_cons]
    omega

/-- What follows an item ends it, up to the end of the list. -/
theorem numberEnd_listed (listed : Listed P false xs inner) (blank : Blank gap) {close : Char}
    (closes : close = ']' ∨ close = '\x7d') (rest : List Char) :
    NumberEnd (inner ++ (gap ++ close :: rest)) := by
  cases listed with
  | nil =>
    rw [List.nil_append]
    refine numberEnd_blank blank ?_
    rcases closes with rfl | rfl <;>
      exact numberEnd_cons (by decide) (by decide) (by decide) (by decide)
  | cons separator head tail =>
    cases separator with
    | @comma before _ otherBlank thirdBlank =>
      rw [List.append_assoc, List.append_assoc, List.cons_append]
      exact numberEnd_blank otherBlank
        (numberEnd_cons (by decide) (by decide) (by decide) (by decide))

/-- One item of an array, and the others. -/
theorem items_cons {item : Reader β} {fuel : Nat} {start text otherText rest : List Char} {head : β}
    {tail : List β} (another : anotherItem first start = .ok (true, text))
    (read : item text = .ok (head, otherText))
    (others : items item fuel false otherText = .ok (tail, rest)) :
    items item (fuel + 1) first start = .ok (head :: tail, rest) := by
  rw [items, another]
  show (item text >>= _) = _
  rw [read]
  show (items item fuel false otherText >>= _) = _
  rw [others]
  rfl

theorem items_nil (item : Reader β) (fuel : Nat) {start text rest : List Char}
    (another : anotherItem first start = .ok (false, text))
    (closed : closeArray text = .ok rest) :
    items item (fuel + 1) first start = .ok ([], rest) := by
  rw [items, another]
  show (closeArray text >>= _) = _
  rw [closed]
  rfl

/-- **Items are read one after the other**, each as it is read alone. -/
theorem items_listed {item : Reader β} {values : List β} (listed : Listed P first xs inner)
    (blank : Blank gap) (token : ∀ x text, P x text → ItemText text)
    (reads : List.Forall₂ (fun x value => ∀ text, P x text → Reads item text (.ok value)) xs values)
    {fuel : Nat} (enough : xs.length < fuel) (rest : List Char) :
    items item fuel first (inner ++ (gap ++ ']' :: rest)) = .ok (values, rest) := by
  induction listed generalizing values fuel with
  | nil =>
    obtain ⟨fuel, rfl⟩ : ∃ k, fuel = k + 1 := Nat.exists_eq_succ_of_ne_zero (by omega)
    cases reads
    exact items_nil item fuel (anotherItem_close _ blank rest)
      (punctuation_blank rest blank_nil rfl)
  | cons separator head tail ih =>
    obtain ⟨fuel, rfl⟩ : ∃ k, fuel = k + 1 := Nat.exists_eq_succ_of_ne_zero (by omega)
    cases reads with
    | cons read others =>
      rw [List.append_assoc, List.append_assoc]
      exact items_cons (anotherItem_separator separator (token _ _ head) _)
        (read _ head blank_nil (numberEnd_listed tail blank (.inl rfl) rest))
        (ih others (Nat.lt_of_succ_lt_succ enough))

end Listed

/-! ### Values that nobody wants -/

section Skipping

variable {P : Tree → List Char → Prop} {first : Bool} {members : List (List Char × Tree)}
  {inner gap text : List Char} {tree : Tree}

/-- A value that nobody wants, as a reader of nothing. -/
def skipping (fuel : Nat) : Reader Unit := fun text => (skipValue fuel text).map ((), ·)

theorem memberText_ne_nil {member : List Char × Tree} (written : MemberText P member text) :
    text ≠ [] := by
  cases written
  exact List.cons_ne_nil _ _

/-- The text of a value is shorter than that of the member. -/
theorem MemberText.short {member : List Char × Tree} {n : Nat}
    (written : MemberText P member text) (short : text.length ≤ n) :
    MemberText (fun tree text => P tree text ∧ text.length ≤ n) member text := by
  cases written with
  | mk quotable blank otherBlank value =>
    refine .mk quotable blank otherBlank ⟨value, ?_⟩
    simp only [List.length_cons, List.length_append] at short
    omega

/-- A colon with white space in front of it. -/
theorem colon_blank (blank : Blank gap) (rest : List Char) :
    colon (gap ++ ':' :: rest) = .ok rest := punctuation_blank rest blank (by decide)

theorem members_cons {κ : Type} {key : Reader κ} {item : Reader β} {fuel : Nat}
    {start named text otherText left rest : List Char} {name : κ} {head : β} {tail : List (κ × β)}
    (another : anotherKey first start = .ok (true, named)) (read : key named = .ok (name, text))
    (marked : colon text = .ok otherText) (value : item otherText = .ok (head, left))
    (others : Json.members key item fuel false left = .ok (tail, rest)) :
    Json.members key item (fuel + 1) first start = .ok ((name, head) :: tail, rest) := by
  rw [Json.members, another]
  show (key named >>= _) = _
  rw [read]
  show (colon text >>= _) = _
  rw [marked]
  show (item otherText >>= _) = _
  rw [value]
  show (Json.members key item fuel false left >>= _) = _
  rw [others]
  rfl

theorem members_nil {κ : Type} (key : Reader κ) (item : Reader β) (fuel : Nat)
    {start text rest : List Char} (another : anotherKey first start = .ok (false, text))
    (closed : closeObject text = .ok rest) :
    Json.members key item (fuel + 1) first start = .ok ([], rest) := by
  rw [Json.members, another]
  show (closeObject text >>= _) = _
  rw [closed]
  rfl

/-- A key that nobody wants, as a reader of nothing. -/
def skippingKey : Reader Unit := fun text => (skipString text).map ((), ·)

/-- **Members that nobody wants are read over**, one after the other. -/
theorem members_listed {item : Reader Unit} (listed : Listed (MemberText P) first members inner)
    (blank : Blank gap) (reads : ∀ tree text, P tree text → Reads item text (.ok ()))
    {fuel : Nat} (enough : members.length < fuel) (rest : List Char) :
    Json.members skippingKey item fuel first (inner ++ (gap ++ '\x7d' :: rest)) =
      .ok (members.map fun _ => ((), ()), rest) := by
  induction listed generalizing fuel with
  | nil =>
    obtain ⟨fuel, rfl⟩ : ∃ k, fuel = k + 1 := Nat.exists_eq_succ_of_ne_zero (by omega)
    exact members_nil skippingKey item fuel (anotherKey_close _ blank rest)
      (punctuation_blank rest blank_nil rfl)
  | cons separator head tail ih =>
    obtain ⟨fuel, rfl⟩ : ∃ k, fuel = k + 1 := Nat.exists_eq_succ_of_ne_zero (by omega)
    cases head with
    | mk quotable otherBlank thirdBlank value =>
      simp only [List.append_assoc, List.cons_append]
      refine members_cons (anotherKey_separator separator _) ?_ (colon_blank otherBlank _)
        (reads _ _ value thirdBlank (numberEnd_listed tail blank (.inr rfl) rest))
        (ih (Nat.lt_of_succ_lt_succ enough))
      exact congrArg (Except.map _) (skipString_quotable quotable _)

/-- Arrays are skipped where the values in them are. -/
theorem skipValue_array {fuel : Nat} {trees : List Tree} (listed : Listed Renders true trees inner)
    (blank : Blank gap) (rest : List Char)
    (skips : ∀ tree text, Renders tree text → text.length ≤ inner.length →
      Reads (skipping fuel) text (.ok ())) :
    skipValue (fuel + 1) ('[' :: (inner ++ (gap ++ ']' :: rest))) = .ok rest := by
  have enough : trees.length < (inner ++ (gap ++ ']' :: rest)).length + 1 := by
    have := listed.length_le fun _ _ => renders_ne_nil
    rw [List.length_append]
    omega
  have reads : List.Forall₂ (fun tree value => ∀ text, Renders tree text ∧
      text.length ≤ inner.length → Reads (skipping fuel) text (.ok value)) trees
      (trees.map fun _ => ()) := by
    rw [List.forall₂_map_right_iff, List.forall₂_same]
    exact fun tree _ text ⟨renders, short⟩ => skips tree text renders short
  have read := items_listed listed.short blank (fun _ _ holds => itemText_of_renders holds.1) reads
    enough rest
  exact congrArg (Except.map Prod.snd) read

/-- Objects are skipped where the values in them are, whatever their keys. -/
theorem skipValue_object {fuel : Nat} (listed : Listed (MemberText Renders) true members inner)
    (blank : Blank gap) (rest : List Char)
    (skips : ∀ tree text, Renders tree text → text.length ≤ inner.length →
      Reads (skipping fuel) text (.ok ())) :
    skipValue (fuel + 1) ('\x7b' :: (inner ++ (gap ++ '\x7d' :: rest))) = .ok rest := by
  have enough : members.length < (inner ++ (gap ++ '\x7d' :: rest)).length + 1 := by
    have := listed.length_le fun _ _ => memberText_ne_nil
    rw [List.length_append]
    omega
  have short := listed.short.imp fun _ _ ⟨written, short⟩ => written.short short
  have read := members_listed short blank
    (fun tree text ⟨renders, short⟩ => skips tree text renders short) enough rest
  exact congrArg (Except.map Prod.snd) read

/-- The value behind white space is skipped. -/
theorem skipValue_blank {before : List Char} (fuel : Nat) (blank : Blank before)
    (renders : Renders tree text) (rest : List Char) :
    skipValue (fuel + 1) (before ++ (text ++ rest)) = skipValue (fuel + 1) (text ++ rest) := by
  obtain ⟨c, others, rfl, begins⟩ := renders_eq_cons renders
  rw [List.cons_append, skipValue, skipValue, skipSpace_token blank begins.token.1,
    skipSpace_cons begins.token.1]

/-- **A value is skipped to its end**, whatever it is and however deep it nests. -/
theorem skipValue_renders (fuel : Nat) (renders : Renders tree text) (enough : text.length < fuel) :
    Reads (skipping fuel) text (.ok ()) := by
  -- On the fuel: the values in an array or object are shorter than its text, so less is enough.
  induction fuel generalizing tree text with
  | zero => cases enough
  | succ fuel ih =>
    intro before rest blank ends
    suffices skips : skipValue (fuel + 1) (text ++ rest) = .ok rest by
      rw [skipping, skipValue_blank fuel blank renders, skips]
      rfl
    cases renders with
    | null => exact literal_append ['u', 'l', 'l'] rest
    | boolean value =>
      cases value with
      | true => exact literal_append ['r', 'u', 'e'] rest
      | false => exact literal_append ['a', 'l', 's', 'e'] rest
    | number numeral =>
      have skips := skipNumber_numeral numeral ends
      obtain ⟨c, others, rfl, leading⟩ := numeral.eq_cons
      obtain ⟨space, -, null, starts⟩ := token_of_number leading
      have letters : c ≠ 't' ∧ c ≠ 'f' := by
        constructor
        all_goals
          rintro rfl
          exact absurd leading (by decide)
      have starts : startsNumber (c :: (others ++ rest)) = true := starts
      rw [List.cons_append, skipValue, skipSpace_cons space]
      dsimp only
      rw [if_neg null, if_neg letters.1, if_neg letters.2, if_pos starts]
      exact skips
    | string quotable =>
      have skips := skipString_quotable quotable rest
      rw [List.cons_append, List.append_assoc]
      exact skips
    | array listed otherBlank =>
      simp only [List.cons_append, List.append_assoc, List.nil_append]
      refine skipValue_array listed otherBlank rest fun tree text renders short => ih renders ?_
      simp only [List.length_cons, List.length_append] at enough
      omega
    | object listed otherBlank =>
      simp only [List.cons_append, List.append_assoc, List.nil_append]
      refine skipValue_object listed otherBlank rest fun tree text renders short => ih renders ?_
      simp only [List.length_cons, List.length_append] at enough
      omega

end Skipping

/-! ### What was read was the text of a tree -/

/-- **What a reader reads was the text of a tree**, behind white space. -/
def Parses (reader : Reader α) : Prop :=
  ∀ ⦃text : List Char⦄ ⦃value : α⦄ ⦃rest : List Char⦄, reader text = .ok (value, rest) →
    ∃ gap tree body, Blank gap ∧ Renders tree body ∧ text = gap ++ (body ++ rest)

section Parses

variable {first : Bool} {text rest : List Char}

/-- A text behind its white space. -/
theorem parses_token {gap body : List Char} (blank : Blank gap) (text_eq : text = gap ++ body)
    (parsed : ∃ tree spelling, Renders tree spelling ∧ body = spelling ++ rest) :
    ∃ gap tree body, Blank gap ∧ Renders tree body ∧ text = gap ++ (body ++ rest) := by
  obtain ⟨tree, spelling, renders, rfl⟩ := parsed
  exact ⟨gap, tree, spelling, blank, renders, text_eq⟩

/-- Where the items of an array come from: the closing bracket, or an item and the others. -/
theorem items_eq_ok {item : Reader β} {fuel : Nat} {values : List β}
    (reads : items item (fuel + 1) first text = .ok (values, rest)) :
    (∃ left, anotherItem first text = .ok (false, left) ∧ closeArray left = .ok rest ∧
      values = []) ∨
    ∃ left head otherLeft tail, anotherItem first text = .ok (true, left) ∧
      item left = .ok (head, otherLeft) ∧ items item fuel false otherLeft = .ok (tail, rest) ∧
      values = head :: tail := by
  obtain ⟨⟨more, left⟩, another, reads⟩ := bind_eq_ok.mp reads
  cases more with
  | false =>
    obtain ⟨after, closed, reads⟩ := bind_eq_ok.mp reads
    cases reads
    exact .inl ⟨left, another, closed, rfl⟩
  | true =>
    obtain ⟨⟨head, otherLeft⟩, read, reads⟩ := bind_eq_ok.mp reads
    obtain ⟨⟨tail, after⟩, others, reads⟩ := bind_eq_ok.mp reads
    cases reads
    exact .inr ⟨left, head, otherLeft, tail, another, read, others, rfl⟩

theorem listed_of_items {item : Reader β} (parses : Parses item) {fuel : Nat} {values : List β}
    (reads : items item fuel first text = .ok (values, rest)) :
    ∃ trees inner gap, Listed Renders first trees inner ∧ Blank gap ∧
      text = inner ++ (gap ++ ']' :: rest) := by
  induction fuel generalizing first text values with
  | zero => cases reads
  | succ fuel ih =>
    rcases items_eq_ok reads with ⟨left, another, closed, -⟩ |
      ⟨left, head, otherLeft, tail, another, read, others, -⟩
    · obtain ⟨-, gap, others, blank, rfl, rfl⟩ | ⟨more, -⟩ := eq_of_anotherItem another
      · have closes := closed.symm.trans (punctuation_blank others blank_nil rfl)
        cases closes
        exact ⟨[], [], gap, .nil, blank, rfl⟩
      · cases more
    · obtain ⟨more, -⟩ | ⟨-, gap, separator, rfl⟩ := eq_of_anotherItem another
      · cases more
      · obtain ⟨before, tree, body, blank, renders, rfl⟩ := parses read
        obtain ⟨trees, inner, after, listed, otherBlank, rfl⟩ := ih others
        refine ⟨tree :: trees, _, after, .cons (separator.append blank) renders listed, otherBlank,
          ?_⟩
        simp only [List.append_assoc]

/-- What was read as a colon and a value was the rest of a member. -/
theorem memberText_of_read {value : β} {item : Reader β} (parses : Parses item)
    {key left otherLeft : List Char} (quotable : Quotable key) (marked : colon left = .ok otherLeft)
    (read : item otherLeft = .ok (value, rest)) :
    ∃ tree body, MemberText Renders (key, tree) body ∧
      '\"' :: (key ++ '\"' :: left) = body ++ rest := by
  obtain ⟨gap, blank, rfl⟩ := eq_of_punctuation marked
  obtain ⟨otherGap, tree, body, otherBlank, renders, rfl⟩ := parses read
  refine ⟨tree, _, .mk quotable blank otherBlank renders, ?_⟩
  simp only [List.append_assoc, List.cons_append]

/-- Where the members of an object come from: the closing brace, or a member and the others. -/
theorem members_eq_ok {κ : Type} {key : Reader κ} {item : Reader β} {fuel : Nat}
    {values : List (κ × β)}
    (reads : Json.members key item (fuel + 1) first text = .ok (values, rest)) :
    (∃ left, anotherKey first text = .ok (false, left) ∧ closeObject left = .ok rest) ∨
    ∃ named name left otherLeft head after tail, anotherKey first text = .ok (true, named) ∧
      key named = .ok (name, left) ∧ colon left = .ok otherLeft ∧
      item otherLeft = .ok (head, after) ∧
      Json.members key item fuel false after = .ok (tail, rest) := by
  obtain ⟨⟨more, named⟩, another, reads⟩ := bind_eq_ok.mp reads
  cases more with
  | false =>
    obtain ⟨after, closed, reads⟩ := bind_eq_ok.mp reads
    cases reads
    exact .inl ⟨named, another, closed⟩
  | true =>
    obtain ⟨⟨name, left⟩, read, reads⟩ := bind_eq_ok.mp reads
    obtain ⟨otherLeft, marked, reads⟩ := bind_eq_ok.mp reads
    obtain ⟨⟨head, after⟩, value, reads⟩ := bind_eq_ok.mp reads
    obtain ⟨⟨tail, last⟩, others, reads⟩ := bind_eq_ok.mp reads
    cases reads
    exact .inr ⟨named, name, left, otherLeft, head, after, tail, another, read, marked, value,
      others⟩

theorem listed_of_members {item : Reader β} (parses : Parses item) {fuel : Nat}
    {values : List (Unit × β)}
    (reads : Json.members skippingKey item fuel first text = .ok (values, rest)) :
    ∃ members inner gap, Listed (MemberText Renders) first members inner ∧ Blank gap ∧
      text = inner ++ (gap ++ '\x7d' :: rest) := by
  induction fuel generalizing first text values with
  | zero => cases reads
  | succ fuel ih =>
    rcases members_eq_ok reads with ⟨left, another, closed⟩ |
      ⟨named, name, left, otherLeft, head, after, tail, another, read, marked, value, others⟩
    · obtain ⟨-, gap, others, blank, rfl, rfl⟩ | ⟨more, -⟩ := eq_of_anotherKey another
      · have closes := closed.symm.trans (punctuation_blank others blank_nil rfl)
        cases closes
        exact ⟨[], [], gap, .nil, blank, rfl⟩
      · cases more
    · obtain ⟨more, -⟩ | ⟨-, gap, separator, rfl⟩ := eq_of_anotherKey another
      · cases more
      · obtain ⟨_, skips, same⟩ := map_eq_ok.mp read
        cases same
        obtain ⟨key, quotable, rfl⟩ := quotable_of_skipString skips
        obtain ⟨tree, body, written, body_eq⟩ := memberText_of_read parses quotable marked value
        obtain ⟨members, inner, otherGap, listed, blank, rfl⟩ := ih others
        refine ⟨_, _, otherGap, .cons separator written listed, blank, ?_⟩
        rw [body_eq]
        simp only [List.append_assoc]

/-- What was skipped as a value was the text of one, from its first character on. -/
theorem renders_of_skipped {fuel : Nat} (parses : Parses (skipping fuel)) {c : Char}
    {others : List Char} (token : isSpace c = false)
    (skips : skipValue (fuel + 1) (c :: others) = .ok rest) :
    ∃ tree body, Renders tree body ∧ c :: others = body ++ rest := by
  rw [skipValue, skipSpace_cons token] at skips
  dsimp only at skips
  split_ifs at skips with null yes no number quote bracket brace
  · refine ⟨.null, _, .null, ?_⟩
    rw [null, eq_of_literal skips]
    rfl
  · refine ⟨.boolean true, _, .boolean true, ?_⟩
    rw [yes, eq_of_literal skips]
    rfl
  · refine ⟨.boolean false, _, .boolean false, ?_⟩
    rw [no, eq_of_literal skips]
    rfl
  · obtain ⟨spelling, numeral, text_eq⟩ := numeral_of_skipNumber skips
    exact ⟨_, _, .number numeral, text_eq⟩
  · obtain ⟨spelling, quotable, rfl⟩ := quotable_of_skipString skips
    refine ⟨_, _, .string quotable, ?_⟩
    simp only [quote, List.cons_append, List.append_assoc, List.nil_append]
  · obtain ⟨⟨values, left⟩, reads, rfl⟩ := map_eq_ok.mp skips
    obtain ⟨trees, inner, gap, listed, blank, rfl⟩ := listed_of_items parses reads
    refine ⟨_, _, .array listed blank, ?_⟩
    simp only [bracket, List.cons_append, List.append_assoc, List.nil_append]
  · obtain ⟨⟨values, left⟩, reads, rfl⟩ := map_eq_ok.mp skips
    obtain ⟨members, inner, gap, listed, blank, rfl⟩ := listed_of_members parses reads
    refine ⟨_, _, .object listed blank, ?_⟩
    simp only [brace, List.cons_append, List.append_assoc, List.nil_append]

/-- **What was skipped as a value was the text of a tree.** -/
theorem parses_skipValue (fuel : Nat) : Parses (skipping fuel) := by
  induction fuel with
  | zero => exact nofun
  | succ fuel ih =>
    intro text value rest skipped
    obtain ⟨left, skips, same⟩ := map_eq_ok.mp skipped
    cases same
    obtain ⟨gap, blank, text_eq⟩ := skipSpace_eq text
    cases tokens : skipSpace text with
    | nil =>
      rw [skipValue, tokens] at skips
      cases skips
    | cons c others =>
      have token := isSpace_of_skipSpace tokens
      refine parses_token blank (tokens ▸ text_eq) (renders_of_skipped ih token ?_)
      rw [skipValue, tokens] at skips
      rw [skipValue, skipSpace_cons token]
      exact skips

end Parses

end IncompleteBeta.Json
