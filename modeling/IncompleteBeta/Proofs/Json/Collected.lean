/-
**Records read along a syntax tree.**

What the members of an object come to is told by its tree alone: which names the keys spell, and
what each value does to the draft. Those with other names do nothing, whatever their values. So it
is with an array in place of the record.

* `Acts`, `Settled`: what a tree does to the draft as a member, and members that go by it;
* `settled_of`: a member with a reader of its own is settled;
* **`Collected`**, `Filled`: what the members of an object and the items of an array come to;
* `objectMembers_collected`, `collected_of_objectMembers`: the loop over members comes to that, and
  to nothing else;
* **`faithful_record`**, `parses_record`: records go by the tree, as single values do.
-/

import IncompleteBeta.Proofs.Json.Faithful

namespace IncompleteBeta.Json

variable {α β δ : Type}

/-! ### Members that go by the tree -/

/-- **What a tree does to the draft as a member.** -/
def Acts (member : Member δ) (tree : Tree) (act : δ → δ) : Prop :=
  ∀ draft, ReadsTree (member.read draft) tree (act draft)

/-- **A member that goes by the tree**: what it makes of one text, it makes of all texts of the tree
in all drafts, and the draft then has it. -/
structure Settled (member : Member δ) : Prop where
  acts : ∀ ⦃tree text before rest otherRest draft later⦄, Renders tree text → Blank before →
    NumberEnd rest → member.read draft (before ++ (text ++ rest)) = .ok (later, otherRest) →
      ∃ act, Acts member tree act ∧ later = act draft
  sets : ∀ ⦃tree act⦄, tree.Rendered → Acts member tree act →
    ∀ draft, member.present (act draft) = true
  parses : ∀ draft, Parses (member.read draft)

section Of

variable {name : String} {held : δ → Option β} {put : δ → β → δ} {reader : Reader β}
  {tree : Tree} {act : δ → δ}

theorem acts_of {value : β} (reads : ReadsTree reader tree value) :
    Acts (.of name held put reader) tree fun draft => put draft value := by
  intro draft text renders
  exact reads_put (put draft) (reads renders)

/-- All that a tree does to drafts is that its value is put there. -/
theorem put_of_acts {text : List Char} (renders : Renders tree text)
    (acts : Acts (.of name held put reader) tree act) (start : δ) :
    ∃ value rest, reader ([] ++ (text ++ [])) = .ok (value, rest) ∧
      ∀ draft, act draft = put draft value := by
  have read (draft : δ) :
      ∃ value rest, reader ([] ++ (text ++ [])) = .ok (value, rest) ∧
        put draft value = act draft := by
    obtain ⟨⟨value, rest⟩, reads, same⟩ :=
      map_eq_ok.mp (acts draft renders blank_nil numberEnd_nil)
    exact ⟨value, rest, reads, congrArg Prod.fst same⟩
  obtain ⟨value, rest, reads, -⟩ := read start
  refine ⟨value, rest, reads, fun draft => ?_⟩
  obtain ⟨otherValue, otherRest, otherReads, same⟩ := read draft
  cases reads.symm.trans otherReads
  exact same.symm

/-- A tree that is read alike acts alike. -/
theorem acts_alike {otherTree : Tree} (faithful : Faithful reader) (rendered : tree.Rendered)
    (alike : ∀ value, ReadsTree reader tree value → ReadsTree reader otherTree value)
    (acts : Acts (.of name held put reader) tree act) :
    Acts (.of name held put reader) otherTree act := by
  obtain ⟨text, renders⟩ := rendered
  intro draft
  obtain ⟨value, rest, reads, puts⟩ := put_of_acts renders acts draft
  rw [puts]
  exact acts_of (alike value (faithful renders blank_nil numberEnd_nil reads)) draft

theorem settled_of (faithful : Faithful reader) (parses : Parses reader)
    (holds : ∀ draft value, held (put draft value) = some value) :
    Settled (.of name held put reader) where
  acts := by
    intro tree text before rest otherRest draft later renders blank ends read
    obtain ⟨⟨value, left⟩, reads, same⟩ := map_eq_ok.mp read
    cases same
    exact ⟨_, acts_of (faithful renders blank ends reads), rfl⟩
  sets := by
    intro tree act rendered acts draft
    obtain ⟨text, renders⟩ := rendered
    obtain ⟨value, -, -, puts⟩ := put_of_acts renders acts draft
    rw [puts]
    show (held (put draft value)).isSome = true
    rw [holds]
    rfl
  parses := by
    intro draft text later rest read
    obtain ⟨⟨value, left⟩, reads, same⟩ := map_eq_ok.mp read
    cases same
    exact parses reads

theorem Settled.trailing {member : Member δ} (settled : Settled member) :
    Settled member.trailing :=
  ⟨settled.acts, settled.sets, settled.parses⟩

end Of

/-! ### The members of an object -/

/-- **What the members of an object come to**, one after the other from a draft on. -/
inductive Collected (format : RecordFormat δ α) : δ → List (List Char × Tree) → δ → Prop where
  | nil (draft : δ) : Collected format draft [] draft
  /-- A member with another name does nothing, whatever its value is. -/
  | other {draft later : δ} {key : List Char} {name : String} {tree : Tree}
      {members : List (List Char × Tree)} (names : Names key name)
      (unknown : format.members.find? (fun member => member.name == name) = none)
      (rendered : tree.Rendered) (others : Collected format draft members later) :
      Collected format draft ((key, tree) :: members) later
  /-- A known member that is not there yet acts on the draft. -/
  | known {draft later : δ} {key : List Char} {name : String} {tree : Tree}
      {members : List (List Char × Tree)} {member : Member δ} {act : δ → δ} (names : Names key name)
      (known : format.members.find? (fun member => member.name == name) = some member)
      (absent : member.present draft = false) (rendered : tree.Rendered)
      (acts : Acts member tree act) (others : Collected format (act draft) members later) :
      Collected format draft ((key, tree) :: members) later

theorem Collected.rendered {format : RecordFormat δ α} {draft later : δ}
    {members : List (List Char × Tree)} (collected : Collected format draft members later) :
    (Tree.object members).Rendered := by
  rw [rendered_object]
  induction collected with
  | nil => exact List.forall_mem_nil _
  | other names unknown rendered others ih | known names known absent rendered acts others ih =>
    exact List.forall_mem_cons.mpr ⟨⟨names.quotable, rendered⟩, ih⟩

section Objects

variable {format : RecordFormat δ α} {member : Member δ} {draft nextDraft later : δ} {fuel : Nat}
  {first : Bool} {members : List (List Char × Tree)} {name : String} {tree : Tree}
  {start named left text body inner gap rest : List Char}

/-- A member with another name is read over. -/
theorem objectMembers_other (another : anotherKey first start = .ok (true, named))
    (read : stringRest named = .ok (name, left))
    (unknown : format.members.find? (fun member => member.name == name) = none)
    (marked : colon left = .ok text) (skips : skipValue (text.length + 1) text = .ok rest) :
    format.objectMembers (fuel + 1) first draft start =
      format.objectMembers fuel false draft rest := by
  rw [RecordFormat.objectMembers, another]
  show (stringRest named >>= _) = _
  rw [read, ok_bind]
  dsimp only
  rw [unknown]
  show (colon left >>= _) = _
  rw [marked]
  show (skipValue (text.length + 1) text >>= _) = _
  rw [skips]
  rfl

/-- A known member is read into the draft. -/
theorem objectMembers_known (another : anotherKey first start = .ok (true, named))
    (read : stringRest named = .ok (name, left))
    (known : format.members.find? (fun member => member.name == name) = some member)
    (absent : member.present draft = false) (marked : colon left = .ok text)
    (reads : member.read draft text = .ok (nextDraft, rest)) :
    format.objectMembers (fuel + 1) first draft start =
      format.objectMembers fuel false nextDraft rest := by
  rw [RecordFormat.objectMembers, another]
  show (stringRest named >>= _) = _
  rw [read, ok_bind]
  dsimp only
  rw [known]
  dsimp only
  rw [absent, if_neg Bool.false_ne_true]
  show (colon left >>= _) = _
  rw [marked]
  show (member.read draft text >>= _) = _
  rw [reads]
  rfl

/-- Where the members of an object come from: the closing brace, or a member and the others. -/
theorem objectMembers_eq_ok
    (read : format.objectMembers (fuel + 1) first draft start = .ok (later, rest)) :
    (anotherKey first start = .ok (false, rest) ∧ later = draft) ∨
    ∃ named name left text, anotherKey first start = .ok (true, named) ∧
      stringRest named = .ok (name, left) ∧ colon left = .ok text ∧
      ((format.members.find? (fun member => member.name == name) = none ∧
        ∃ after, skipValue (text.length + 1) text = .ok after ∧
          format.objectMembers fuel false draft after = .ok (later, rest)) ∨
      ∃ member nextDraft after,
        format.members.find? (fun member => member.name == name) = some member ∧
        member.present draft = false ∧ member.read draft text = .ok (nextDraft, after) ∧
        format.objectMembers fuel false nextDraft after = .ok (later, rest)) := by
  obtain ⟨⟨more, named⟩, another, read⟩ := bind_eq_ok.mp read
  cases more with
  | false =>
    cases read
    exact .inl ⟨another, rfl⟩
  | true =>
    obtain ⟨⟨name, left⟩, reads, read⟩ := bind_eq_ok.mp read
    dsimp only at read
    split at read
    next unknown =>
      obtain ⟨text, marked, read⟩ := bind_eq_ok.mp read
      obtain ⟨after, skips, read⟩ := bind_eq_ok.mp read
      exact .inr ⟨named, name, left, text, another, reads, marked,
        .inl ⟨unknown, after, skips, read⟩⟩
    next member known =>
      split at read
      next => cases read
      next absent =>
        obtain ⟨text, marked, read⟩ := bind_eq_ok.mp read
        obtain ⟨⟨nextDraft, after⟩, value, read⟩ := bind_eq_ok.mp read
        exact .inr ⟨named, name, left, text, another, reads, marked,
          .inr ⟨member, nextDraft, after, known, Bool.eq_false_iff.mpr absent, value, read⟩⟩

/-- A value that nobody wants is skipped, whatever follows it. -/
theorem skipValue_member (blank : Blank gap) (renders : Renders tree body)
    (ends : NumberEnd rest) :
    skipValue ((gap ++ (body ++ rest)).length + 1) (gap ++ (body ++ rest)) = .ok rest := by
  have enough : body.length < (gap ++ (body ++ rest)).length + 1 := by
    simp only [List.length_append]
    omega
  obtain ⟨left, skips, same⟩ := map_eq_ok.mp (skipValue_renders _ renders enough blank ends)
  cases same
  exact skips

/-- **The loop over members comes to what their trees come to.** -/
theorem objectMembers_collected (collected : Collected format draft members later)
    (listed : Listed (MemberText Renders) first members inner) (blank : Blank gap)
    (enough : members.length < fuel) (rest : List Char) :
    format.objectMembers fuel first draft (inner ++ (gap ++ '\x7d' :: rest)) =
      .ok (later, '\x7d' :: rest) := by
  induction collected generalizing first inner fuel with
  | nil draft =>
    obtain ⟨fuel, rfl⟩ : ∃ k, fuel = k + 1 := Nat.exists_eq_succ_of_ne_zero (by omega)
    cases listed
    rw [List.nil_append, RecordFormat.objectMembers, anotherKey_close first blank]
    rfl
  | other names unknown rendered others ih =>
    obtain ⟨fuel, rfl⟩ : ∃ k, fuel = k + 1 := Nat.exists_eq_succ_of_ne_zero (by omega)
    cases listed with
    | cons separator head tail =>
      cases head with
      | mk quotable blank₁ blank₂ value =>
        simp only [List.append_assoc, List.cons_append]
        have ends := numberEnd_listed tail blank (.inr rfl) rest
        rw [objectMembers_other (anotherKey_separator separator _) (names _) unknown
          (colon_blank blank₁ _) (skipValue_member blank₂ value ends)]
        exact ih tail (Nat.lt_of_succ_lt_succ enough)
  | known names known absent rendered acts others ih =>
    obtain ⟨fuel, rfl⟩ : ∃ k, fuel = k + 1 := Nat.exists_eq_succ_of_ne_zero (by omega)
    cases listed with
    | cons separator head tail =>
      cases head with
      | mk quotable blank₁ blank₂ value =>
        simp only [List.append_assoc, List.cons_append]
        have ends := numberEnd_listed tail blank (.inr rfl) rest
        rw [objectMembers_known (anotherKey_separator separator _) (names _) known absent
          (colon_blank blank₁ _) (acts _ value blank₂ ends)]
        exact ih tail (Nat.lt_of_succ_lt_succ enough)

/-- **What the loop over members came to, their trees come to.** -/
theorem collected_of_objectMembers (settled : ∀ member ∈ format.members, Settled member)
    (listed : Listed (MemberText Renders) first members inner) (blank : Blank gap)
    (read : format.objectMembers fuel first draft (inner ++ (gap ++ '\x7d' :: rest)) =
      .ok (later, left)) :
    Collected format draft members later := by
  induction listed generalizing draft fuel with
  | nil =>
    cases fuel with
    | zero => cases read
    | succ fuel =>
      obtain ⟨-, rfl⟩ | ⟨named, name, otherLeft, text, another, -⟩ := objectMembers_eq_ok read
      · exact .nil _
      · cases (anotherKey_close _ blank rest).symm.trans another
  | cons separator head tail ih =>
    cases fuel with
    | zero => cases read
    | succ fuel =>
      cases head with
      | mk quotable blank₁ blank₂ value =>
        simp only [List.append_assoc, List.cons_append] at read
        have ends := numberEnd_listed tail blank (.inr rfl) rest
        obtain ⟨another, -⟩ | ⟨named, name, otherLeft, text, another, reads, marked, found⟩ :=
          objectMembers_eq_ok read
        · cases (anotherKey_separator separator _).symm.trans another
        · cases (anotherKey_separator separator _).symm.trans another
          obtain ⟨names, rfl⟩ := names_of_read quotable reads
          cases (colon_blank blank₁ _).symm.trans marked
          obtain ⟨unknown, after, skips, others⟩ |
            ⟨member, nextDraft, after, known, absent, reads, others⟩ := found
          · cases (skipValue_member blank₂ value ends).symm.trans skips
            exact .other names unknown ⟨_, value⟩ (ih others)
          · have among := List.mem_of_find?_eq_some known
            obtain ⟨act, acts, rfl⟩ := (settled member among).acts value blank₂ ends reads
            cases (acts _ value blank₂ ends).symm.trans reads
            exact .known names known absent ⟨_, value⟩ acts (ih others)

/-- **What the loop over members read was the text of members.** -/
theorem listed_of_objectMembers (settled : ∀ member ∈ format.members, Settled member)
    (read : format.objectMembers fuel first draft start = .ok (later, left)) :
    ∃ members inner gap rest, Listed (MemberText Renders) first members inner ∧ Blank gap ∧
      left = '\x7d' :: rest ∧ start = inner ++ (gap ++ '\x7d' :: rest) := by
  induction fuel generalizing first draft start with
  | zero => cases read
  | succ fuel ih =>
    obtain ⟨another, -⟩ | ⟨named, name, otherLeft, text, another, reads, marked, found⟩ :=
      objectMembers_eq_ok read
    · obtain ⟨-, gap, others, blank, rfl, rfl⟩ | ⟨more, -⟩ := eq_of_anotherKey another
      · exact ⟨[], [], gap, others, .nil, blank, rfl, rfl⟩
      · cases more
    · obtain ⟨more, -⟩ | ⟨-, gap, separator, rfl⟩ := eq_of_anotherKey another
      · cases more
      · obtain ⟨key, quotable, rfl⟩ := quotable_of_stringRest reads
        -- Wanted or not, the value was the text of a tree.
        obtain ⟨tree, body, after, nextDraft, written, body_eq, others⟩ :
          ∃ tree body after nextDraft,
            MemberText Renders (key, tree) body ∧
            '\"' :: (key ++ '\"' :: otherLeft) = body ++ after ∧
            format.objectMembers fuel false nextDraft after = .ok (later, left) := by
          obtain ⟨-, after, skips, others⟩ |
            ⟨member, nextDraft, after, known, -, value, others⟩ := found
          · have skipped : skipping (text.length + 1) text = .ok ((), after) :=
              congrArg (Except.map _) skips
            obtain ⟨tree, body, written, body_eq⟩ :=
              memberText_of_read (parses_skipValue _) quotable marked skipped
            exact ⟨tree, body, after, draft, written, body_eq, others⟩
          · have among := List.mem_of_find?_eq_some known
            obtain ⟨tree, body, written, body_eq⟩ :=
              memberText_of_read ((settled member among).parses draft) quotable marked value
            exact ⟨tree, body, after, nextDraft, written, body_eq, others⟩
        obtain ⟨members, inner, otherGap, rest, listed, blank, rfl, rfl⟩ := ih others
        refine ⟨_, _, otherGap, rest, .cons separator written listed, blank, rfl, ?_⟩
        rw [body_eq]
        simp only [List.append_assoc]

end Objects

/-! ### The items of an array in place of the record -/

/-- **What the items of an array come to**, one for each member, from a draft on. -/
inductive Filled : List (Member δ) → δ → List Tree → δ → Prop where
  | nil (draft : δ) : Filled [] draft [] draft
  | cons {member : Member δ} {members : List (Member δ)} {draft later : δ} {tree : Tree}
      {trees : List Tree} {act : δ → δ} (acts : Acts member tree act)
      (others : Filled members (act draft) trees later) :
      Filled (member :: members) draft (tree :: trees) later
  /-- The array may end before the last members. -/
  | omitted {member : Member δ} {members : List (Member δ)} {draft later : δ}
      (omissible : member.omissible = true) (others : Filled members draft [] later) :
      Filled (member :: members) draft [] later

section Arrays

variable {member : Member δ} {members : List (Member δ)} {draft nextDraft later : δ} {index : Nat}
  {first : Bool} {trees : List Tree} {wanted : String}
  {start text left inner gap rest : List Char}

theorem arrayMembers_cons (another : anotherItem first start = .ok (true, text))
    (read : member.read draft text = .ok (nextDraft, left)) :
    RecordFormat.arrayMembers wanted (member :: members) index first draft start =
      RecordFormat.arrayMembers wanted members (index + 1) false nextDraft left := by
  rw [RecordFormat.arrayMembers, another]
  show (member.read draft text >>= _) = _
  rw [read]
  rfl

theorem arrayMembers_omitted (another : anotherItem first start = .ok (false, text))
    (omissible : member.omissible = true) :
    RecordFormat.arrayMembers wanted (member :: members) index first draft start =
      RecordFormat.arrayMembers wanted members (index + 1) first draft text := by
  rw [RecordFormat.arrayMembers, another, ok_bind]
  dsimp only
  rw [if_neg Bool.false_ne_true, if_pos omissible]

/-- Where the items come from: an item for the member and the others, or an early end. -/
theorem arrayMembers_eq_ok
    (read : RecordFormat.arrayMembers wanted (member :: members) index first draft start =
      .ok (later, rest)) :
    (∃ text nextDraft left, anotherItem first start = .ok (true, text) ∧
      member.read draft text = .ok (nextDraft, left) ∧
      RecordFormat.arrayMembers wanted members (index + 1) false nextDraft left =
        .ok (later, rest)) ∨
    ∃ text, anotherItem first start = .ok (false, text) ∧ member.omissible = true ∧
      RecordFormat.arrayMembers wanted members (index + 1) first draft text =
        .ok (later, rest) := by
  obtain ⟨⟨more, text⟩, another, read⟩ := bind_eq_ok.mp read
  cases more with
  | true =>
    obtain ⟨⟨nextDraft, left⟩, value, read⟩ := bind_eq_ok.mp read
    exact .inl ⟨text, nextDraft, left, another, value, read⟩
  | false =>
    dsimp only at read
    rw [if_neg Bool.false_ne_true] at read
    split at read
    next omissible => exact .inr ⟨text, another, omissible, read⟩
    next => cases read

/-- **The loop over items comes to what their trees come to**, up to the closing bracket. -/
theorem arrayMembers_filled (wanted : String) (index : Nat)
    (filled : Filled members draft trees later)
    (listed : Listed Renders first trees inner) (blank : Blank gap) (rest : List Char) :
    ∃ otherGap, Blank otherGap ∧
      RecordFormat.arrayMembers wanted members index first draft (inner ++ (gap ++ ']' :: rest)) =
        .ok (later, otherGap ++ ']' :: rest) := by
  induction filled generalizing index first inner gap with
  | nil draft =>
    cases listed
    exact ⟨gap, blank, rfl⟩
  | @cons member members draft later tree trees act acts others ih =>
    cases listed with
    | cons separator head tail =>
      simp only [List.append_assoc]
      have value := acts draft head blank_nil (numberEnd_listed tail blank (.inl rfl) rest)
      rw [arrayMembers_cons (anotherItem_separator separator (itemText_of_renders head) _) value]
      exact ih (index + 1) tail blank
  | omitted omissible others ih =>
    cases listed
    rw [List.nil_append, arrayMembers_omitted (anotherItem_close first blank rest) omissible]
    exact ih (index + 1) .nil blank_nil

/-- An array does not end where an item follows. -/
theorem closeArray_separator (separator : Separator first gap) (token : ItemText text)
    (rest left : List Char) : closeArray (gap ++ (text ++ rest)) ≠ .ok left := by
  intro closed
  obtain ⟨c, others, rfl, space, bracket⟩ := token
  cases separator with
  | first blank => exact bracket (token_eq_of_punctuation closed blank space)
  | comma blank otherBlank =>
    rw [List.append_assoc, List.cons_append] at closed
    exact absurd (token_eq_of_punctuation closed blank (by decide)) (by decide)

/-- **What the loop over items came to, their trees come to**, if the array ended there. -/
theorem filled_of_arrayMembers (settled : ∀ member ∈ members, Settled member)
    (listed : Listed Renders first trees inner) (blank : Blank gap)
    (read : RecordFormat.arrayMembers wanted members index first draft
      (inner ++ (gap ++ ']' :: rest)) = .ok (later, left))
    (closed : closeArray left = .ok text) : Filled members draft trees later := by
  induction members generalizing index first draft trees inner gap with
  | nil =>
    cases read
    -- With no member left, an item would keep the array from ending.
    cases listed with
    | nil => exact .nil _
    | cons separator head tail =>
      rw [List.append_assoc, List.append_assoc] at closed
      exact absurd closed (closeArray_separator separator (itemText_of_renders head) _ _)
  | cons member members ih =>
    obtain ⟨settles, settled⟩ := List.forall_mem_cons.mp settled
    obtain ⟨otherText, nextDraft, otherLeft, another, value, others⟩ |
        ⟨otherText, another, omissible, others⟩ :=
      arrayMembers_eq_ok read
    · cases listed with
      | nil => cases (anotherItem_close _ blank rest).symm.trans another
      | cons separator head tail =>
        rw [List.append_assoc, List.append_assoc] at another
        have follows := anotherItem_separator separator (itemText_of_renders head)
        cases (follows _).symm.trans another
        have ends := numberEnd_listed tail blank (.inl rfl) rest
        obtain ⟨act, acts, rfl⟩ := settles.acts head blank_nil ends value
        cases (acts _ head blank_nil ends).symm.trans value
        exact .cons acts (ih settled tail blank others)
    · cases listed with
      | nil =>
        cases (anotherItem_close _ blank rest).symm.trans another
        exact .omitted omissible (ih settled .nil blank_nil others)
      | cons separator head tail =>
        rw [List.append_assoc, List.append_assoc] at another
        have follows := anotherItem_separator separator (itemText_of_renders head)
        cases (follows _).symm.trans another

/-- Where the array ends, no item is read any more. -/
theorem eq_of_arrayMembers_close
    (read : RecordFormat.arrayMembers wanted members index first draft (']' :: rest) =
      .ok (later, left)) : left = ']' :: rest := by
  induction members generalizing index draft with
  | nil =>
    cases read
    rfl
  | cons member members ih =>
    have close := anotherItem_close first blank_nil rest
    obtain ⟨text, nextDraft, otherLeft, another, -⟩ | ⟨text, another, -, others⟩ :=
      arrayMembers_eq_ok read
    · cases close.symm.trans another
    · cases close.symm.trans another
      exact ih others

/-- **What the loop over items read was the text of items**, if the array ended there. -/
theorem listed_of_arrayMembers (settled : ∀ member ∈ members, Settled member)
    (read : RecordFormat.arrayMembers wanted members index first draft start = .ok (later, left))
    (closed : closeArray left = .ok rest) :
    ∃ trees inner gap, Listed Renders first trees inner ∧ Blank gap ∧
      start = inner ++ (gap ++ ']' :: rest) := by
  induction members generalizing index first draft start with
  | nil =>
    cases read
    obtain ⟨gap, blank, rfl⟩ := eq_of_punctuation closed
    exact ⟨[], [], gap, .nil, blank, rfl⟩
  | cons member members ih =>
    obtain ⟨settles, settled⟩ := List.forall_mem_cons.mp settled
    obtain ⟨text, nextDraft, otherLeft, another, value, others⟩ |
        ⟨text, another, omissible, others⟩ :=
      arrayMembers_eq_ok read
    · obtain ⟨more, -⟩ | ⟨-, gap, separator, rfl⟩ := eq_of_anotherItem another
      · cases more
      · obtain ⟨before, tree, body, blank, renders, rfl⟩ := settles.parses draft value
        obtain ⟨trees, inner, after, listed, otherBlank, rfl⟩ := ih settled others
        refine ⟨tree :: trees, _, after, .cons (separator.append blank) renders listed, otherBlank,
          ?_⟩
        simp only [List.append_assoc]
    · obtain ⟨-, gap, otherOthers, blank, rfl, rfl⟩ | ⟨more, -⟩ := eq_of_anotherItem another
      · cases eq_of_arrayMembers_close others
        cases (punctuation_blank otherOthers blank_nil (by decide)).symm.trans closed
        exact ⟨[], [], gap, .nil, blank, rfl⟩
      · cases more

end Arrays

/-! ### Records -/

section Records

variable {format : RecordFormat δ α} {draft : δ} {record : α} {trees : List Tree}
  {members : List (List Char × Tree)} {tree : Tree} {text rest : List Char}

/-- **What the members of an object make as a record.** -/
def Makes (format : RecordFormat δ α) (members : List (List Char × Tree)) (record : α) : Prop :=
  ∃ draft, Collected format format.empty members draft ∧ format.complete draft = .ok record

theorem finish_eq_ok : format.finish draft = .ok record ↔ format.complete draft = .ok record := by
  unfold RecordFormat.finish
  cases format.complete draft with
  | error mismatch => exact ⟨nofun, nofun⟩
  | ok found => exact ⟨fun same => by cases same; rfl, fun same => by cases same; rfl⟩

theorem readsTree_record (makes : Makes format members record) :
    ReadsTree format.read (.object members) record := by
  obtain ⟨draft, collected, complete⟩ := makes
  intro text renders before rest blank _
  cases renders with
  | @object _ inner gap listed otherBlank =>
    have enough := listed.length_le fun _ _ => memberText_ne_nil
    have enough : members.length < (inner ++ (gap ++ '\x7d' :: rest)).length + 1 := by
      have := listed.length_le fun _ _ => memberText_ne_nil
      rw [List.length_append]
      omega
    simp only [List.cons_append, List.append_assoc, List.nil_append]
    rw [RecordFormat.read, skipSpace_token blank (by decide)]
    show (format.objectMembers _ true format.empty _ >>= _) = _
    rw [objectMembers_collected collected listed otherBlank enough]
    show (format.finish draft >>= _) = _
    have closed : closeObject ('\x7d' :: rest) = .ok rest :=
      punctuation_blank rest blank_nil (by decide)
    rw [finish_eq_ok.mpr complete, ok_bind, closed]
    rfl

/-- **A record in the form of an object is what its members make.** -/
theorem makes_of_read (settled : ∀ member ∈ format.members, Settled member)
    {before otherRest : List Char} (renders : Renders (.object members) text) (blank : Blank before)
    (read : format.read (before ++ (text ++ rest)) = .ok (record, otherRest)) :
    Makes format members record := by
  cases renders with
  | object listed otherBlank =>
    simp only [List.cons_append, List.append_assoc, List.nil_append] at read
    rw [RecordFormat.read, skipSpace_token blank (by decide)] at read
    obtain ⟨⟨draft, left⟩, gathers, read⟩ := bind_eq_ok.mp read
    obtain ⟨found, finished, read⟩ := bind_eq_ok.mp read
    obtain ⟨last, closed, same⟩ := bind_eq_ok.mp read
    cases same
    exact ⟨draft, collected_of_objectMembers settled listed otherBlank gathers,
      finish_eq_ok.mp finished⟩

theorem makes_iff (settled : ∀ member ∈ format.members, Settled member) :
    Makes format members record ↔
      (Tree.object members).Rendered ∧ ReadsTree format.read (.object members) record := by
  constructor
  · rintro ⟨draft, collected, complete⟩
    exact ⟨collected.rendered, readsTree_record ⟨draft, collected, complete⟩⟩
  · rintro ⟨⟨text, renders⟩, reads⟩
    exact makes_of_read settled renders blank_nil (reads renders blank_nil numberEnd_nil)

theorem readsTree_filled (filled : Filled format.members format.empty trees draft)
    (complete : format.complete draft = .ok record) :
    ReadsTree format.read (.array trees) record := by
  intro text renders before rest blank _
  cases renders with
  | array listed otherBlank =>
    obtain ⟨gap, thirdBlank, reads⟩ :=
      arrayMembers_filled format.arrayTitle 0 filled listed otherBlank rest
    simp only [List.cons_append, List.append_assoc, List.nil_append]
    rw [RecordFormat.read, skipSpace_token blank (by decide)]
    show (RecordFormat.arrayMembers _ format.members 0 true format.empty _ >>= _) = _
    rw [reads]
    show (format.finish draft >>= _) = _
    have closed : closeArray (gap ++ ']' :: rest) = .ok rest :=
      punctuation_blank rest thirdBlank (by decide)
    rw [finish_eq_ok.mpr complete, ok_bind, closed]
    rfl

/-- **Records go by the tree**, in either form. -/
theorem faithful_record (settled : ∀ member ∈ format.members, Settled member) :
    Faithful format.read := by
  intro tree text before rest otherRest value renders blank ends read
  obtain ⟨c, others, rfl, begins⟩ := renders_eq_cons renders
  have tokens := read
  rw [List.cons_append, RecordFormat.read, skipSpace_token blank begins.token.1] at tokens
  split at tokens
  next same =>
    cases same
    obtain ⟨members, rfl⟩ := begins.eq_object
    exact readsTree_record (makes_of_read settled renders blank read)
  next same =>
    cases same
    obtain ⟨trees, rfl⟩ := begins.eq_array
    obtain ⟨⟨draft, left⟩, fills, tokens⟩ := bind_eq_ok.mp tokens
    obtain ⟨found, finished, tokens⟩ := bind_eq_ok.mp tokens
    obtain ⟨last, closed, same⟩ := bind_eq_ok.mp tokens
    cases same
    cases renders with
    | array listed otherBlank =>
      rw [List.append_assoc, List.append_assoc] at fills
      exact readsTree_filled (filled_of_arrayMembers settled listed otherBlank fills closed)
        (finish_eq_ok.mp finished)
  next => exact absurd tokens (mismatched_ne_ok _ _ _)

/-- **What is read as a record was the text of an object or an array.** -/
theorem parses_record (settled : ∀ member ∈ format.members, Settled member) :
    Parses format.read := by
  intro text value rest read
  obtain ⟨gap, blank, text_eq⟩ := skipSpace_eq text
  unfold RecordFormat.read at read
  split at read
  next others tokens =>
    obtain ⟨⟨draft, left⟩, gathers, read⟩ := bind_eq_ok.mp read
    obtain ⟨found, finished, read⟩ := bind_eq_ok.mp read
    obtain ⟨last, closed, same⟩ := bind_eq_ok.mp read
    cases same
    obtain ⟨members, inner, otherGap, after, listed, otherBlank, rfl, rfl⟩ :=
      listed_of_objectMembers settled gathers
    cases (punctuation_blank after blank_nil (by decide)).symm.trans closed
    refine parses_token blank (tokens ▸ text_eq) ⟨_, _, .object listed otherBlank, ?_⟩
    simp only [List.cons_append, List.append_assoc, List.nil_append]
  next others tokens =>
    obtain ⟨⟨draft, left⟩, fills, read⟩ := bind_eq_ok.mp read
    obtain ⟨found, finished, read⟩ := bind_eq_ok.mp read
    obtain ⟨last, closed, same⟩ := bind_eq_ok.mp read
    cases same
    obtain ⟨trees, inner, otherGap, listed, otherBlank, rfl⟩ :=
      listed_of_arrayMembers settled fills closed
    refine parses_token blank (tokens ▸ text_eq) ⟨_, _, .array listed otherBlank, ?_⟩
    simp only [List.cons_append, List.append_assoc, List.nil_append]
  next => exact absurd read (mismatched_ne_ok _ _ _)

end Records

end IncompleteBeta.Json
