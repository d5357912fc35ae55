/-
**What a run writes.**

* `Writable`, **`writable_iff`**: where outputs can be written;
* `opens_writeTo`, `writable_writeTo`: that does not depend on what was written before;
* `read_writeTo`, `read_writeTo_of_apart`: what was written is there, until something is written to
  the same place.
-/

import IncompleteBeta.Proofs.CommandLine.Scenes
import IncompleteBeta.Proofs.Files.Tree

namespace IncompleteBeta.CommandLine

open Files FileTree

variable {tree after : FileTree} {output other : Option PathName} {path : PathName} {text : String}
  {place : List FileName}

/-- **An output can be written**, if it is asked for. -/
def Writable (tree : FileTree) (output : Option PathName) : Prop :=
  ∀ path ∈ output, ∃ place, tree.Opens path place

/-- Two paths lead to different places. -/
def Apart (tree : FileTree) (path other : PathName) : Prop :=
  ∀ place, tree.Opens path place → ¬tree.Opens other place

/-- Writing to a path puts a file at its place. -/
theorem writeTo_some_eq_ok : writeTo tree (some path) text = .ok after ↔
    ∃ place, tree.Opens path place ∧ after = tree.put place (.file (Text.utf8Bytes text)) := by
  rw [← write_eq_ok, writeTo]
  cases tree.write path (Text.utf8Bytes text) with
  | ok written =>
    show (Except.ok written : Except RunFault FileTree) = .ok after ↔ _
    rw [Except.ok.injEq, Except.ok.injEq]
  | error fault =>
    refine iff_of_false ?_ ?_
    · rintro ⟨⟩
    · rintro ⟨⟩

theorem writeTo_none_eq_ok : writeTo tree none text = .ok after ↔ after = tree := by
  rw [writeTo, Except.ok.injEq, eq_comm]

/-- **Outputs are written exactly where they can be**, whatever is written. -/
theorem writable_iff (text : String) :
    Writable tree output ↔ ∃ after, writeTo tree output text = .ok after := by
  cases output with
  | none => exact iff_of_true nofun ⟨tree, rfl⟩
  | some path =>
    simp only [writeTo_some_eq_ok]
    constructor
    · intro writable
      obtain ⟨place, opens⟩ := writable path rfl
      exact ⟨_, place, opens, rfl⟩
    · rintro ⟨after, place, opens, -⟩ _ ⟨rfl⟩
      exact ⟨place, opens⟩

/-- An output that is refused cannot be written. -/
theorem not_writable {fault : RunFault} (failed : writeTo tree output text = .error fault) :
    ¬Writable tree output := by
  intro writable
  obtain ⟨after, written⟩ := (writable_iff text).mp writable
  cases failed.symm.trans written

/-- Writing an output leaves every path at its place. -/
theorem opens_writeTo (written : writeTo tree output text = .ok after) :
    after.Opens path place ↔ tree.Opens path place := by
  cases output with
  | none => rw [writeTo_none_eq_ok.mp written]
  | some taken =>
    obtain ⟨reached, opens, rfl⟩ := writeTo_some_eq_ok.mp written
    exact opens_put opens.2

theorem writable_writeTo (written : writeTo tree output text = .ok after) :
    Writable after other ↔ Writable tree other := by
  simp only [Writable, opens_writeTo written]

/-- **What is written to an output is there.** -/
theorem read_writeTo (written : writeTo tree (some path) text = .ok after) :
    after.read path = .ok (Text.utf8Bytes text) := by
  obtain ⟨place, opens, rfl⟩ := writeTo_some_eq_ok.mp written
  exact read_put opens

/-- **What is elsewhere is left alone.** -/
theorem read_writeTo_of_apart (written : writeTo tree output text = .ok after)
    (opens : tree.Opens path place) (apart : ∀ other ∈ output, Apart tree path other) :
    after.read path = tree.read path := by
  cases output with
  | none => rw [writeTo_none_eq_ok.mp written]
  | some taken =>
    obtain ⟨elsewhere, leads, rfl⟩ := writeTo_some_eq_ok.mp written
    refine read_put_of_ne opens leads.2 ?_
    rintro rfl
    exact apart taken rfl place opens leads

end IncompleteBeta.CommandLine
