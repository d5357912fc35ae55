/-
**Members in any order, and others between them.**

The members of a record do not see each other: each has its own part of the draft. So what an object
makes as a record does not depend on their order, nor on members with other names, nor on whether a
member without a value is written as `null` or left out.

* `Apart`, `apart_of`: members that do not see each other, as those with parts of their own;
* `Regular`: formats of such members;
* **`Collected.perm`**: the order of members does not matter;
* `Collected.pushed`: a member may as well act first;
* `Edited`: what may be done to the members of an object;
* **`Edited.makes`**: the object then still makes the same record;
* `Makes.replace`: a member's value may be replaced by one that acts alike.
-/

import IncompleteBeta.Proofs.Json.Collected

namespace IncompleteBeta.Json

variable {α β γ δ : Type}

/-! ### Members that do not see each other -/

/-- **Two members that do not see each other**: they may act in either order, and whether the one is
there does not depend on the other. -/
structure Apart (member otherMember : Member δ) : Prop where
  commute : ∀ ⦃tree otherTree act otherAct⦄, tree.Rendered → otherTree.Rendered →
    Acts member tree act →
    Acts otherMember otherTree otherAct → ∀ draft, act (otherAct draft) = otherAct (act draft)
  present : ∀ ⦃tree act⦄, tree.Rendered → Acts member tree act →
    ∀ draft, otherMember.present (act draft) = otherMember.present draft
  otherPresent : ∀ ⦃tree act⦄, tree.Rendered → Acts otherMember tree act →
    ∀ draft, member.present (act draft) = member.present draft

theorem Apart.symm {member otherMember : Member δ} (apart : Apart member otherMember) :
    Apart otherMember member where
  commute _ _ _ _ rendered otherRendered acts otherActs draft :=
    (apart.commute otherRendered rendered otherActs acts draft).symm
  present := apart.otherPresent
  otherPresent := apart.present

instance : Std.Symm (@Apart δ) := ⟨fun _ _ => Apart.symm⟩

theorem Apart.trailing {member otherMember : Member δ} (apart : Apart member otherMember) :
    Apart member otherMember.trailing :=
  ⟨apart.commute, apart.present, apart.otherPresent⟩

/-- **Members with parts of the draft of their own do not see each other.** -/
theorem apart_of {name otherName : String} {held : δ → Option β} {otherHeld : δ → Option γ}
    {put : δ → β → δ} {otherPut : δ → γ → δ} {reader : Reader β} {otherReader : Reader γ}
    (commute : ∀ draft value otherValue,
      put (otherPut draft otherValue) value = otherPut (put draft value) otherValue)
    (keeps : ∀ draft value, otherHeld (put draft value) = otherHeld draft)
    (otherKeeps : ∀ draft value, held (otherPut draft value) = held draft) :
    Apart (.of name held put reader) (.of otherName otherHeld otherPut otherReader) where
  commute := by
    rintro tree otherTree act otherAct ⟨text, renders⟩ ⟨otherText, otherRenders⟩ acts otherActs
      draft
    obtain ⟨value, -, -, puts⟩ := put_of_acts renders acts draft
    obtain ⟨otherValue, -, -, otherPuts⟩ := put_of_acts otherRenders otherActs draft
    rw [puts, puts, otherPuts, otherPuts]
    exact commute draft value otherValue
  present := by
    rintro tree act ⟨text, renders⟩ acts draft
    obtain ⟨value, -, -, puts⟩ := put_of_acts renders acts draft
    rw [puts]
    exact congrArg Option.isSome (keeps draft value)
  otherPresent := by
    rintro tree act ⟨text, renders⟩ acts draft
    obtain ⟨value, -, -, puts⟩ := put_of_acts renders acts draft
    rw [puts]
    exact congrArg Option.isSome (otherKeeps draft value)

/-- **A format of members that go by the tree and do not see each other.** -/
structure Regular (format : RecordFormat δ α) : Prop where
  settled : ∀ member ∈ format.members, Settled member
  apart : format.members.Pairwise Apart
  fresh : ∀ member ∈ format.members, member.present format.empty = false

section Collected

variable {format : RecordFormat δ α} {draft later : δ} {record : α}
  {members otherMembers before after : List (List Char × Tree)} {x y : List Char × Tree}
  {member otherMember : Member δ} {act : δ → δ} {key : List Char} {name : String}
  {tree otherTree : Tree}

theorem Regular.apart_of_ne (regular : Regular format) (among : member ∈ format.members)
    (otherAmong : otherMember ∈ format.members) (other : member ≠ otherMember) :
    Apart member otherMember :=
  regular.apart.forall among otherAmong other

/-! ### The order of members -/

/-- **Two members in a row may change places.** -/
theorem Collected.swap (regular : Regular format)
    (collected : Collected format draft (x :: y :: members) later) :
    Collected format draft (y :: x :: members) later := by
  cases collected with
  | other names unknown rendered others =>
    cases others with
    | other otherNames otherUnknown otherRendered others =>
      exact .other otherNames otherUnknown otherRendered (.other names unknown rendered others)
    | known otherNames otherKnown otherAbsent otherRendered otherActs others =>
      exact .known otherNames otherKnown otherAbsent otherRendered otherActs
        (.other names unknown rendered others)
  | @known _ _ _ _ _ _ member _ names known absent rendered acts others =>
    cases others with
    | other otherNames otherUnknown otherRendered others =>
      exact .other otherNames otherUnknown otherRendered (.known names known absent rendered acts
        others)
    | @known _ _ _ _ _ _ otherMember _ otherNames otherKnown otherAbsent otherRendered otherActs
        others =>
      have among := List.mem_of_find?_eq_some known
      have otherAmong := List.mem_of_find?_eq_some otherKnown
      -- A member that is there already would have been refused.
      have other : member ≠ otherMember := by
        rintro rfl
        rw [(regular.settled _ among).sets rendered acts] at otherAbsent
        cases otherAbsent
      have apart := regular.apart_of_ne among otherAmong other
      rw [apart.present rendered acts] at otherAbsent
      rw [← apart.otherPresent otherRendered otherActs] at absent
      rw [← apart.commute rendered otherRendered acts otherActs] at others
      exact .known otherNames otherKnown otherAbsent otherRendered otherActs
        (.known names known absent rendered acts others)

/-- **The order of members does not matter.** -/
theorem Collected.perm (regular : Regular format) (perm : members.Perm otherMembers)
    (collected : Collected format draft members later) :
    Collected format draft otherMembers later := by
  induction perm generalizing draft with
  | nil => exact collected
  | cons member perm ih =>
    cases collected with
    | other names unknown rendered others => exact .other names unknown rendered (ih others)
    | known names known absent rendered acts others =>
      exact .known names known absent rendered acts (ih others)
  | swap => exact collected.swap regular
  | trans _ _ ih thereafter => exact thereafter (ih collected)

/-! ### More members -/

/-- **A member that is not among the others may as well act first**, and is not there after them
where it was not before. -/
theorem Collected.pushed (regular : Regular format)
    (known : format.members.find? (fun member => member.name == name) = some member)
    (rendered : tree.Rendered) (acts : Acts member tree act)
    (collected : Collected format draft members later)
    (absent : ∀ written ∈ members, ¬Names written.1 name) :
    Collected format (act draft) members (act later) ∧
      member.present later = member.present draft := by
  induction collected with
  | nil => exact ⟨.nil _, rfl⟩
  | other names unknown otherRendered others ih =>
    obtain ⟨pushed, same⟩ := ih (List.forall_mem_cons.mp absent).2
    exact ⟨.other names unknown otherRendered pushed, same⟩
  | @known draft later otherKey otherName otherTree members otherMember otherAct names otherKnown
      otherAbsent otherRendered otherActs
      others ih =>
    obtain ⟨elsewhere, absent⟩ := List.forall_mem_cons.mp absent
    obtain ⟨pushed, same⟩ := ih absent
    -- Its name is not among the written ones, so this is another member.
    have other : member ≠ otherMember := by
      rintro rfl
      have named := List.find?_some known
      have otherNamed := List.find?_some otherKnown
      rw [← eq_of_beq named, eq_of_beq otherNamed] at elsewhere
      exact elsewhere names
    have apart := regular.apart_of_ne (List.mem_of_find?_eq_some known)
      (List.mem_of_find?_eq_some otherKnown) other
    rw [apart.commute rendered otherRendered acts otherActs] at pushed
    rw [← apart.present rendered acts] at otherAbsent
    exact ⟨.known names otherKnown otherAbsent otherRendered otherActs pushed,
      same.trans (apart.otherPresent otherRendered otherActs draft)⟩

/-- **A member that may be written as `null`** as well as left out. -/
def Nullable (format : RecordFormat δ α) (name : String) : Prop :=
  ∃ member act, format.members.find? (fun member => member.name == name) = some member ∧
    Acts member .null act ∧
    ∀ draft, member.present draft = false → format.complete (act draft) = format.complete draft

/-- A member whose value may be absent is complete where none is put. -/
theorem nullable_of {own : String} {item : Reader β} {held : δ → Option (Option β)}
    {put : δ → Option β → δ}
    (known : format.members.find? (fun member => member.name == name) =
      some (Member.of own held put (readOptional item)).trailing)
    (same : ∀ draft, held draft = none → format.complete (put draft none) = format.complete draft) :
    Nullable format name := by
  have acts : Acts (.of own held put (readOptional item)) .null fun draft => put draft none :=
    acts_of (readsTree_none item)
  refine ⟨_, _, known, acts, ?_⟩
  intro draft absent
  exact same draft (Option.not_isSome_iff_eq_none.mp (Bool.eq_false_iff.mp absent))

/-- **What may be done to the members of an object** that is read as a record of members with known
names: they may stand in another order; a member with another name may be put in, whatever its
value; and where an optional member is not written, `null` may be written for it. New members are
put in front, from where they may be moved. A key spells a name of characters, by escapes or not;
the value of an unknown member need not even do that. -/
inductive Edited (known optional : List String) :
    List (List Char × Tree) → List (List Char × Tree) → Prop where
  | reordered {members otherMembers : List (List Char × Tree)} (perm : members.Perm otherMembers) :
      Edited known optional members otherMembers
  | extended {members : List (List Char × Tree)} {key : List Char} {name : String} {tree : Tree}
      (names : Names key name) (unknown : name ∉ known) (rendered : tree.Rendered) :
      Edited known optional members ((key, tree) :: members)
  | nulled {members : List (List Char × Tree)} {key : List Char} {name : String}
      (names : Names key name) (may : name ∈ optional)
      (absent : ∀ written ∈ members, ¬Names written.1 name) :
      Edited known optional members ((key, .null) :: members)

theorem rendered_null : Tree.null.Rendered := ⟨_, .null⟩

theorem Edited.rendered {known optional : List String}
    (edited : Edited known optional members otherMembers)
    (rendered : (Tree.object members).Rendered) :
    (Tree.object otherMembers).Rendered := by
  rw [rendered_object] at rendered ⊢
  cases edited with
  | reordered perm => exact fun member among => rendered member (perm.mem_iff.mpr among)
  | extended names _ otherRendered =>
    exact List.forall_mem_cons.mpr ⟨⟨names.quotable, otherRendered⟩, rendered⟩
  | nulled names => exact List.forall_mem_cons.mpr ⟨⟨names.quotable, rendered_null⟩, rendered⟩

/-- **An edited object makes the same record.** -/
theorem Edited.makes {optional : List String} (regular : Regular format)
    (nullable : ∀ name ∈ optional, Nullable format name)
    (edited : Edited (format.members.map Member.name) optional members otherMembers)
    (makes : Makes format members record) : Makes format otherMembers record := by
  obtain ⟨draft, collected, complete⟩ := makes
  cases edited with
  | reordered perm => exact ⟨draft, collected.perm regular perm, complete⟩
  | extended names unknown rendered =>
    refine ⟨draft, .other names (List.find?_eq_none.mpr ?_) rendered collected, complete⟩
    intro member among same
    exact unknown (List.mem_map.mpr ⟨member, among, eq_of_beq same⟩)
  | nulled names may absent =>
    obtain ⟨member, act, known, acts, same⟩ := nullable _ may
    have fresh := regular.fresh member (List.mem_of_find?_eq_some known)
    obtain ⟨pushed, still⟩ := collected.pushed regular known rendered_null acts absent
    exact ⟨act draft, .known names known fresh rendered_null acts pushed,
      (same draft (still.trans fresh)).trans complete⟩

/-- **An edited object is read as the same record.** -/
theorem Edited.readsTree {optional : List String} (regular : Regular format)
    (nullable : ∀ name ∈ optional, Nullable format name)
    (edited : Edited (format.members.map Member.name) optional members otherMembers)
    (rendered : (Tree.object members).Rendered)
    (reads : ReadsTree format.read (.object members) record) :
    ReadsTree format.read (.object otherMembers) record := by
  have makes := (makes_iff regular.settled).mpr ⟨rendered, reads⟩
  exact readsTree_record (edited.makes regular nullable makes)

/-! ### Other values -/

/-- **A value may be replaced by one that acts alike.** -/
theorem Collected.replace (names : Names key name) (rendered : otherTree.Rendered)
    (alike : ∀ member act, format.members.find? (fun member => member.name == name) = some member →
      Acts member tree act → Acts member otherTree act)
    (collected : Collected format draft (before ++ (key, tree) :: after) later) :
    Collected format draft (before ++ (key, otherTree) :: after) later := by
  induction before generalizing draft with
  | nil =>
    cases collected with
    | other otherNames unknown _ others => exact .other otherNames unknown rendered others
    | known otherNames known absent _ acts others =>
      obtain rfl := names.unique otherNames
      exact .known names known absent rendered (alike _ _ known acts) others
  | cons member before ih =>
    cases collected with
    | other otherNames unknown otherRendered others =>
      exact .other otherNames unknown otherRendered (ih others)
    | known otherNames known absent otherRendered acts others =>
      exact .known otherNames known absent otherRendered acts (ih others)

theorem Makes.replace (names : Names key name) (rendered : otherTree.Rendered)
    (alike : ∀ member act, format.members.find? (fun member => member.name == name) = some member →
      Acts member tree act → Acts member otherTree act)
    (makes : Makes format (before ++ (key, tree) :: after) record) :
    Makes format (before ++ (key, otherTree) :: after) record := by
  obtain ⟨draft, collected, complete⟩ := makes
  exact ⟨draft, collected.replace names rendered alike, complete⟩

end Collected

end IncompleteBeta.Json
