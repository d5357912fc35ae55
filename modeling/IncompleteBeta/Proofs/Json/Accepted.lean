/-
**What is known of the values that readers give.**

* `Yields`: every value that a reader gives has a property;
* `yields_float`, `yields_natural`: the doubles that are read are finite, and the natural numbers
  fit a word;
* `yields_optional`, `yields_list`: a property of parts;
* `yields_of`, **`yields_record`**: what each member keeps of the draft holds of the record, whether
  that is written as an object or as an array.
-/

import IncompleteBeta.Json.Record
import IncompleteBeta.Proofs.Failure
import IncompleteBeta.Proofs.Json.Rereading

namespace IncompleteBeta.Json

open Binary64

variable {α β δ : Type}

/-- **Every value that a reader gives has a property.** -/
def Yields (reader : Reader α) (P : α → Prop) : Prop :=
  ∀ ⦃text : List Char⦄ ⦃value : α⦄ ⦃rest : List Char⦄, reader text = .ok (value, rest) → P value

/-- A whole text gives what its reader gives. -/
theorem Yields.whole {reader : Reader α} {P : α → Prop} (yields : Yields reader P) {text : String}
    {value : α} (read : whole reader text = .ok value) : P value := by
  obtain ⟨⟨found, rest⟩, reads, ends⟩ := bind_eq_ok.mp read
  dsimp only at ends
  split at ends
  next =>
    cases ends
    exact yields reads
  next => cases ends

/-- A mismatch is a fault. -/
theorem mismatched_ne_ok (wanted : String) (text : List Char) (result : α × List Char) :
    mismatched wanted text ≠ .ok result := by
  have fault {γ : Type} {found : Except Fault γ} {faults : γ → Except Fault (α × List Char)}
      (read : found >>= faults = .ok result) (never : ∀ value, faults value ≠ .ok result) :
      False := by
    obtain ⟨value, _, read⟩ := bind_eq_ok.mp read
    exact never value read
  intro read
  unfold mismatched at read
  dsimp only at read
  split at read
  next => cases read
  next c rest _ =>
    split at read
    next => exact fault read fun _ => nofun
    split at read
    next => exact fault read fun _ => nofun
    split at read
    next => exact fault read fun _ => nofun
    split at read
    next =>
      refine fault read ?_
      rintro ⟨number, _⟩
      cases number <;> exact nofun
    split at read
    next => exact fault read fun _ => nofun
    split at read
    next => cases read
    split at read <;> cases read

/-! ### Numbers -/

/-- Where a number comes from. -/
theorem meaning_of_readNumber {text rest : List Char} {number : Number}
    (read : readNumber text = .ok (number, rest)) :
    ∃ (negative : Bool) (written : NumberText), written.meaning? negative = some number := by
  have unsigned {negative : Bool} {text : List Char}
      (read : unsignedNumber negative text = .ok (number, rest)) :
      ∃ written : NumberText, written.meaning? negative = some number := by
    obtain ⟨⟨written, _⟩, _, read⟩ := bind_eq_ok.mp read
    dsimp only at read
    split at read
    next found meaning =>
      cases read
      exact ⟨written, meaning⟩
    next => cases read
  unfold readNumber at read
  split at read
  next => exact ⟨true, unsigned read⟩
  next => exact ⟨false, unsigned read⟩

theorem isFinite_readNumber {text rest : List Char} {x : Float}
    (read : readNumber text = .ok (.float x, rest)) : x.isFinite = true := by
  obtain ⟨negative, written, meaning⟩ := meaning_of_readNumber read
  exact isFinite_meaning meaning

theorem natAbs_readNumber {text rest : List Char} {n : Int}
    (read : readNumber text = .ok (.integer n, rest)) : n.natAbs < 2 ^ 64 := by
  obtain ⟨negative, written, meaning⟩ := meaning_of_readNumber read
  exact natAbs_meaning meaning

/-- An integer of a word is rounded to a finite double. -/
theorem isFinite_integer (negative : Bool) {n : Nat} (word : n < 2 ^ 64) :
    ((Decimal.mk n 0).toFloat negative).isFinite = true := by
  have below : (Decimal.mk n 0).value ≤ 2 ^ (64 : ℤ) := by
    rw [Decimal.value, zpow_zero, mul_one]
    exact_mod_cast word.le
  refine ((Decimal.rounds_toFloat negative ⟨n, 0⟩).finite ?_).1
  rw [rounded_signed, abs_signed, abs_of_nonneg (rounded_nonneg (Decimal.value_nonneg _))]
  exact (rounded_le_of_onGrid (onGrid_zpow (by norm_num)) below).trans_lt
    (zpow_lt_range (by norm_num))

/-- **The doubles that are read are finite.** -/
theorem yields_float : Yields readFloat fun x => x.isFinite = true := by
  intro text x rest read
  unfold readFloat at read
  dsimp only at read
  split at read
  next =>
    obtain ⟨⟨number, _⟩, reads, same⟩ := map_eq_ok.mp read
    cases number with
    | float x =>
      cases same
      exact isFinite_readNumber reads
    | integer n =>
      cases same
      exact isFinite_integer _ (natAbs_readNumber reads)
  next => exact absurd read (mismatched_ne_ok _ _ _)

/-- **The natural numbers that are read fit a word.** -/
theorem yields_natural (wanted : String) : Yields (readNatural wanted) (· < 2 ^ 64) := by
  intro text n rest read
  unfold readNatural at read
  dsimp only at read
  split at read
  next =>
    obtain ⟨⟨number, _⟩, reads, read⟩ := bind_eq_ok.mp read
    cases number with
    | float x => cases read
    | integer value =>
      dsimp only at read
      split at read
      next nonneg =>
        cases read
        have word := natAbs_readNumber reads
        omega
      next => cases read
  next => exact absurd read (mismatched_ne_ok _ _ _)

/-! ### Parts -/

theorem yields_any {α : Type} (reader : Reader α) : Yields reader fun _ => True :=
  fun _ _ _ _ => trivial

theorem forall_mem_none {α : Type} {P : α → Prop} : ∀ x ∈ (none : Option α), P x := by
  rintro _ ⟨⟩

theorem forall_mem_some {α : Type} {P : α → Prop} {value : α} (holds : P value) :
    ∀ x ∈ some value, P x := by
  rintro _ ⟨rfl⟩
  exact holds

theorem mem_of_needed {name : String} {α : Type} {o : Option α} {value : α}
    (needs : needed name o = .ok value) : value ∈ o := by
  cases o with
  | none => cases needs
  | some found =>
    cases needs
    rfl

theorem yields_optional {item : Reader α} {P : α → Prop} (yields : Yields item P) :
    Yields (readOptional item) fun found => ∀ value ∈ found, P value := by
  intro text found rest read
  unfold readOptional at read
  split at read
  next =>
    obtain ⟨_, _, same⟩ := map_eq_ok.mp read
    cases same
    exact nofun
  next =>
    obtain ⟨⟨value, _⟩, reads, same⟩ := map_eq_ok.mp read
    cases same
    rintro _ ⟨rfl⟩
    exact yields reads

theorem yields_items {item : Reader α} {P : α → Prop} (yields : Yields item P) (fuel : Nat)
    (first : Bool) : Yields (items item fuel first) fun values => ∀ value ∈ values, P value := by
  induction fuel generalizing first with
  | zero => exact nofun
  | succ fuel ih =>
    intro text values rest read
    obtain ⟨⟨more, text⟩, _, read⟩ := bind_eq_ok.mp read
    dsimp only at read
    split at read
    next =>
      obtain ⟨⟨head, text⟩, reads, read⟩ := bind_eq_ok.mp read
      obtain ⟨⟨tail, text⟩, others, read⟩ := bind_eq_ok.mp read
      cases read
      exact List.forall_mem_cons.mpr ⟨yields reads, ih false others⟩
    next =>
      obtain ⟨_, _, read⟩ := bind_eq_ok.mp read
      cases read
      exact List.forall_mem_nil _

theorem yields_list {item : Reader α} {P : α → Prop} (yields : Yields item P) :
    Yields (readList item) fun values => ∀ value ∈ values, P value := by
  intro text values rest read
  unfold readList at read
  split at read
  next => exact yields_items yields _ true read
  next => exact absurd read (mismatched_ne_ok _ _ _)

/-! ### Records -/

section Records

variable {format : RecordFormat δ α} {I : δ → Prop} {P : α → Prop}

/-- What is read and put into a draft keeps what the draft has. -/
theorem yields_of {name : String} {held : δ → Option β} {put : δ → β → δ} {reader : Reader β}
    {Q : β → Prop} {draft : δ} (yields : Yields reader Q)
    (keeps : ∀ found, Q found → I (put draft found)) :
    Yields ((Member.of name held put reader).read draft) I := by
  intro text later rest read
  obtain ⟨⟨found, _⟩, reads, same⟩ := map_eq_ok.mp read
  cases same
  exact keeps found (yields reads)

theorem yields_trailing {member : Member δ} {draft : δ} (yields : Yields (member.read draft) I) :
    Yields (member.trailing.read draft) I := yields

theorem yields_objectMembers
    (keeps : ∀ member ∈ format.members, ∀ draft, I draft → Yields (member.read draft) I)
    (fuel : Nat) (first : Bool) {draft : δ} (holds : I draft) :
    Yields (format.objectMembers fuel first draft) I := by
  induction fuel generalizing first draft with
  | zero => exact nofun
  | succ fuel ih =>
    intro text later rest read
    obtain ⟨⟨more, text⟩, _, read⟩ := bind_eq_ok.mp read
    dsimp only at read
    split at read
    next =>
      obtain ⟨⟨key, text⟩, _, read⟩ := bind_eq_ok.mp read
      dsimp only at read
      split at read
      next =>
        obtain ⟨text, _, read⟩ := bind_eq_ok.mp read
        obtain ⟨text, _, read⟩ := bind_eq_ok.mp read
        exact ih false holds read
      next member known =>
        split at read
        next => cases read
        next =>
          obtain ⟨text, _, read⟩ := bind_eq_ok.mp read
          obtain ⟨⟨draft, text⟩, reads, read⟩ := bind_eq_ok.mp read
          exact ih false (keeps member (List.mem_of_find?_eq_some known) _ holds reads) read
    next =>
      cases read
      exact holds

theorem yields_arrayMembers (wanted : String) {members : List (Member δ)}
    (keeps : ∀ member ∈ members, ∀ draft, I draft → Yields (member.read draft) I)
    (index : Nat) (first : Bool) {draft : δ} (holds : I draft) :
    Yields (RecordFormat.arrayMembers wanted members index first draft) I := by
  induction members generalizing index first draft with
  | nil =>
    intro text later rest read
    cases read
    exact holds
  | cons member members ih =>
    obtain ⟨keeps, others⟩ := List.forall_mem_cons.mp keeps
    intro text later rest read
    obtain ⟨⟨more, text⟩, _, read⟩ := bind_eq_ok.mp read
    dsimp only at read
    split at read
    next =>
      obtain ⟨⟨draft, text⟩, reads, read⟩ := bind_eq_ok.mp read
      exact ih others (index + 1) false (keeps _ holds reads) read
    next =>
      split at read
      next => exact ih others (index + 1) first holds read
      next => cases read

/-- **What each member keeps of the draft holds of the record.** -/
theorem yields_record (empty : I format.empty)
    (keeps : ∀ member ∈ format.members, ∀ draft, I draft → Yields (member.read draft) I)
    (complete : ∀ draft record, I draft → format.complete draft = .ok record → P record) :
    Yields format.read P := by
  have finish : ∀ {draft record}, I draft → format.finish draft = .ok record → P record := by
    intro draft record holds finished
    unfold RecordFormat.finish at finished
    cases outcome : format.complete draft with
    | error mismatch =>
      rw [outcome] at finished
      cases finished
    | ok found =>
      rw [outcome] at finished
      cases finished
      exact complete draft record holds outcome
  intro text record rest read
  unfold RecordFormat.read at read
  split at read
  next =>
    obtain ⟨⟨draft, _⟩, reads, read⟩ := bind_eq_ok.mp read
    obtain ⟨found, finished, read⟩ := bind_eq_ok.mp read
    obtain ⟨_, _, read⟩ := bind_eq_ok.mp read
    cases read
    exact finish (yields_objectMembers keeps _ true empty reads) finished
  next =>
    obtain ⟨⟨draft, _⟩, reads, read⟩ := bind_eq_ok.mp read
    obtain ⟨found, finished, read⟩ := bind_eq_ok.mp read
    obtain ⟨_, _, read⟩ := bind_eq_ok.mp read
    cases read
    exact finish (yields_arrayMembers _ keeps 0 true empty reads) finished
  next => exact absurd read (mismatched_ne_ok _ _ _)

end Records

end IncompleteBeta.Json
