/-
**Which files are verified.**

* `IsFixtureName`: the names with the extension of fixtures;
* `Selected`: the files for an argument, by what is listed in the directory there;
* `Selected.unique`, `Selected.perm`: they do not depend on the order of the listing;
* **`selectFixtures_eq_ok`**: these files are selected;
* `selectFixtures_eq_error`: a directory without any of them is misused.
-/

import IncompleteBeta.CommandLine.Run
import Mathlib.Data.List.Basic

namespace IncompleteBeta.CommandLine

open Files (entryPath)

/-! ### Names -/

/-- **A name with the extension of fixtures**: a stem, which is not empty, and the extension. -/
def IsFixtureName (name : FileName) : Prop :=
  ∃ stem : FileName, stem ≠ [] ∧ name = stem ++ fixtureExtension

theorem hasFixtureExtension_iff (name : FileName) :
    hasFixtureExtension name = true ↔ IsFixtureName name := by
  rw [hasFixtureExtension, Bool.and_eq_true, decide_eq_true_eq, List.isSuffixOf_iff_suffix]
  constructor
  · rintro ⟨⟨stem, rfl⟩, long⟩
    refine ⟨stem, ?_, rfl⟩
    rintro rfl
    exact absurd long (Nat.lt_irrefl _)
  · rintro ⟨stem, nonempty, rfl⟩
    have positive := List.length_pos_of_ne_nil nonempty
    refine ⟨⟨stem, rfl⟩, ?_⟩
    rw [List.length_append]
    omega

instance : DecidablePred IsFixtureName := fun name =>
  decidable_of_iff _ (hasFixtureExtension_iff name)

theorem hasFixtureExtension_eq (name : FileName) :
    hasFixtureExtension name = decide (IsFixtureName name) := by
  rw [Bool.eq_iff_iff, decide_eq_true_eq, hasFixtureExtension_iff]

/-- Paths into a directory are in the order of the names. -/
theorem entryPath_mono (directory : PathName) {left right : FileName} (ordered : left ≤ right) :
    entryPath directory left ≤ entryPath directory right := by
  rw [entryPath, entryPath]
  split
  · exact List.append_left_le ordered
  · exact List.append_left_le (List.cons_le_cons_iff.mpr (.inr ⟨rfl, ordered⟩))

/-! ### Selecting -/

/-- **The files to verify** for an argument: the argument itself where no directory stands, and
otherwise the paths to all that is listed in it with the extension, in ascending order. -/
inductive Selected (fixture : PathName) :
    (listing : Option (List FileName)) → List PathName → Prop where
  | argument : Selected fixture none [fixture]
  | entries {listing : List FileName} {paths : List PathName} (nonempty : paths ≠ [])
      (chosen : paths.Perm
        ((listing.filter fun name => IsFixtureName name).map (entryPath fixture)))
      (ascending : paths.Pairwise (· ≤ ·)) : Selected fixture (some listing) paths

section Selecting

variable {fixture : PathName} {listing : Option (List FileName)} {paths others : List PathName}

/-- What is selected is told by what is listed. -/
theorem Selected.unique (selected : Selected fixture listing paths)
    (rival : Selected fixture listing others) : paths = others := by
  cases selected with
  | argument =>
    cases rival
    rfl
  | entries _ chosen ascending =>
    cases rival with
    | entries _ rivalChosen rivalAscending =>
      exact (chosen.trans rivalChosen.symm).eq_of_pairwise (fun _ _ _ _ => List.le_antisymm)
        ascending rivalAscending

/-- **The order of the listing does not matter.** -/
theorem Selected.perm {names relisted : List FileName} (same : names.Perm relisted)
    (selected : Selected fixture (some names) paths) : Selected fixture (some relisted) paths := by
  cases selected with
  | entries nonempty chosen ascending =>
    exact .entries nonempty (chosen.trans ((same.filter _).map _)) ascending

/-- The names of a directory in ascending order. -/
theorem ascending_mergeSort (names : List FileName) :
    (names.mergeSort fun left right => !(right < left)).Pairwise (· ≤ ·) := by
  have ordered {left right : FileName} : (!decide (right < left)) = true ↔ left ≤ right := by
    rw [Bool.not_eq_true', decide_eq_false_iff_not, List.not_lt]
  refine (List.pairwise_mergeSort ?_ ?_ names).imp ordered.mp
  · intro first second third before after
    exact ordered.mpr (List.le_trans (ordered.mp before) (ordered.mp after))
  · intro left right
    rw [Bool.or_eq_true, ordered, ordered]
    exact List.le_total left right

/-- **The files to verify are selected**, and nothing else is. -/
theorem selectFixtures_eq_ok :
    selectFixtures fixture listing = .ok paths ↔ Selected fixture listing paths := by
  cases listing with
  | none =>
    constructor
    · rintro ⟨⟩
      exact .argument
    · rintro ⟨⟩
      rfl
  | some names =>
    rw [selectFixtures, funext hasFixtureExtension_eq]
    generalize sorted : (names.filter fun name => decide (IsFixtureName name)).mergeSort _ = chosen
    have ascending : chosen.Pairwise (· ≤ ·) := sorted ▸ ascending_mergeSort _
    have perm : chosen.Perm (names.filter fun name => IsFixtureName name) :=
      sorted ▸ List.mergeSort_perm _ _
    have selects (nonempty : chosen ≠ []) :
        Selected fixture (some names) (chosen.map (entryPath fixture)) :=
      .entries (by simpa using nonempty) (perm.map _)
        (List.pairwise_map.mpr (ascending.imp (entryPath_mono fixture)))
    split
    next empty =>
      refine iff_of_false nofun ?_
      rintro (_ | ⟨nonempty, among, -⟩)
      rw [List.isEmpty_iff.mp empty] at perm
      rw [perm.symm.eq_nil] at among
      exact nonempty among.eq_nil
    next nonempty =>
      have selected := selects (by simpa using nonempty)
      constructor
      · rintro ⟨⟩
        exact selected
      · exact fun rival => congrArg Except.ok (selected.unique rival)

/-- **A directory without fixtures is a fault of use**, and there is no other one. -/
theorem selectFixtures_eq_error {fault : RunFault} :
    selectFixtures fixture listing = .error fault ↔ (∀ paths, ¬Selected fixture listing paths) ∧
      fault = noFixtures fixture := by
  have only {found : RunFault} (failed : selectFixtures fixture listing = .error found) :
      found = noFixtures fixture := by
    unfold selectFixtures at failed
    split at failed
    next => cases failed
    next =>
      dsimp only at failed
      split at failed
      next =>
        cases failed
        rfl
      next => cases failed
  constructor
  · intro failed
    refine ⟨fun paths selected => ?_, only failed⟩
    rw [selectFixtures_eq_ok.mpr selected] at failed
    cases failed
  · rintro ⟨none, rfl⟩
    cases outcome : selectFixtures fixture listing with
    | ok paths => exact absurd (selectFixtures_eq_ok.mp outcome) (none paths)
    | error found => rw [only outcome]

end Selecting

end IncompleteBeta.CommandLine
