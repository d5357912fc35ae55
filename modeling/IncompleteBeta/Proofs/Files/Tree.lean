/-
**What writing a file does to a tree.**

* `FileTree.Opens`: a path leads to a place at which a file can stand;
* `write_eq_ok`: writing succeeds exactly there, and puts a file at the place;
* `opens_put`, **`write_write`**: a file that was written can be written again;
* **`read_put`**, `read_put_of_ne`: what was written is read, and other files are left alone.
-/

import IncompleteBeta.Files.Tree
import IncompleteBeta.Proofs.Failure
import Mathlib.Tactic.Common

namespace IncompleteBeta.Files

namespace FileTree

variable {tree : FileTree} {place other names reached : List FileName} {path : PathName}
  {node : Node} {bytes more : List UInt8}

/-! ### Places -/

theorem node?_of_ne_nil (inside : place ≠ []) : tree.node? place = tree.nodes.lookup place := by
  rw [node?, if_neg (by simpa using inside)]

/-- Entries that are chosen by their names are found where their names are chosen. -/
theorem lookup_filter_names (chosen : List FileName → Bool) (nodes : List (List FileName × Node)) :
    (nodes.filter fun entry => chosen entry.1).lookup place =
      if chosen place then nodes.lookup place else none := by
  induction nodes with
  | nil => simp
  | cons entry nodes ih =>
    obtain ⟨names, node⟩ := entry
    rw [List.filter_cons, List.lookup_cons]
    rcases eq_or_ne place names with rfl | different
    · cases known : chosen place with
      | true => simp
      | false => simpa [known] using ih
    · have unequal : (place == names) = false := beq_eq_false_iff_ne.mpr different
      cases chosen names with
      | true => simpa [List.lookup_cons, unequal] using ih
      | false => simpa [unequal] using ih

theorem node?_put_self (inside : place ≠ []) : (tree.put place node).node? place = some node := by
  rw [node?_of_ne_nil inside, put, List.lookup_append, lookup_filter_names (· != place)]
  simp

theorem node?_put_of_ne (different : other ≠ place) :
    (tree.put place node).node? other = tree.node? other := by
  rcases eq_or_ne other [] with rfl | inside
  · rfl
  · have unequal : (other == place) = false := beq_eq_false_iff_ne.mpr different
    rw [node?_of_ne_nil inside, node?_of_ne_nil inside, put, List.lookup_append,
      lookup_filter_names (· != place)]
    simp [List.lookup_cons, unequal, different]

/-- A directory is no place for a file. -/
theorem ne_nil_of_free (free : tree.node? place ≠ some .directory) : place ≠ [] := by
  rintro rfl
  exact free rfl

/-- **A file neither opens nor closes a way**: every name on a way is looked up in a directory, and
no directory was replaced or made. -/
theorem follow_put (free : tree.node? place ≠ some .directory) :
    (tree.put place (.file bytes)).follow reached names = .ok other ↔
      tree.follow reached names = .ok other := by
  induction names generalizing reached with
  | nil => exact Iff.rfl
  | cons name names ih =>
    rw [follow, follow]
    rcases eq_or_ne reached place with rfl | elsewhere
    · rw [node?_put_self (ne_nil_of_free free)]
      cases stands : tree.node? reached with
      | none => exact iff_of_false nofun nofun
      | some standing =>
        cases standing with
        | file bytes => exact Iff.rfl
        | directory => exact absurd stands free
    · rw [node?_put_of_ne elsewhere]
      cases tree.node? reached with
      | none => exact Iff.rfl
      | some standing =>
        cases standing with
        | file bytes => exact Iff.rfl
        | directory =>
          dsimp only
          split_ifs
          · exact ih
          · exact ih
          · exact Iff.rfl
          · exact ih

/-! ### Writing -/

/-- **A path leads to a place at which a file can stand.** -/
def Opens (tree : FileTree) (path : PathName) (place : List FileName) : Prop :=
  (∃ names, Path.ofName path = .ok ⟨names, false⟩ ∧ tree.follow [] names = .ok place) ∧
    tree.node? place ≠ some .directory

/-- **Writing puts a file at the place to which the path leads**, if one can stand there. -/
theorem write_eq_ok {after : FileTree} : tree.write path bytes = .ok after ↔
    ∃ place, tree.Opens path place ∧ after = tree.put place (.file bytes) := by
  rw [write, bind_eq_ok]
  constructor
  · rintro ⟨⟨names, slash⟩, parted, written⟩
    dsimp only at written
    cases slash with
    | true =>
      obtain ⟨_, _, refused⟩ := bind_eq_ok.mp written
      cases refused
    | false =>
      obtain ⟨place, found, written⟩ := bind_eq_ok.mp written
      split at written
      next => cases written
      next free =>
        cases written
        exact ⟨place, ⟨⟨names, parted, found⟩, free⟩, rfl⟩
  · rintro ⟨place, ⟨⟨names, parted, found⟩, free⟩, rfl⟩
    refine ⟨_, parted, bind_eq_ok.mpr ⟨place, found, ?_⟩⟩
    exact if_neg free

/-- **A path leads to the same place after a file was written anywhere.** -/
theorem opens_put (free : tree.node? other ≠ some .directory) :
    (tree.put other (.file bytes)).Opens path place ↔ tree.Opens path place := by
  have stands : (tree.put other (.file bytes)).node? place ≠ some .directory ↔
      tree.node? place ≠ some .directory := by
    rcases eq_or_ne place other with rfl | different
    · rw [node?_put_self (ne_nil_of_free free)]
      exact iff_of_true nofun free
    · rw [node?_put_of_ne different]
  simp only [Opens, follow_put free, stands]

/-- **What was written is read.** -/
theorem read_put (opens : tree.Opens path place) :
    (tree.put place (.file bytes)).read path = .ok bytes := by
  obtain ⟨⟨names, parted, found⟩, free⟩ := opens
  rw [FileTree.read, parted]
  simp only [bind, Except.bind, (follow_put free).mpr found, node?_put_self (ne_nil_of_free free)]
  rfl

/-- **Other files are left alone.** -/
theorem read_put_of_ne (opens : tree.Opens path place)
    (free : tree.node? other ≠ some .directory) (different : place ≠ other) :
    (tree.put other (.file bytes)).read path = tree.read path := by
  obtain ⟨⟨names, parted, found⟩, -⟩ := opens
  rw [FileTree.read, FileTree.read, parted]
  simp only [bind, Except.bind, found, (follow_put free).mpr found, node?_put_of_ne different]

/-- **A file that was written can be written again**, and holds what was written last. -/
theorem write_write {after : FileTree} (written : tree.write path bytes = .ok after) :
    ∃ last, after.write path more = .ok last ∧ last.read path = .ok more := by
  obtain ⟨place, opens, rfl⟩ := write_eq_ok.mp written
  have again : (tree.put place (.file bytes)).Opens path place := (opens_put opens.2).mpr opens
  exact ⟨_, write_eq_ok.mpr ⟨place, again, rfl⟩, read_put again⟩

end FileTree

end IncompleteBeta.Files
