/-
**Two ways to take up a file.**

A file of fixtures is loaded as a set, or verified at once. One way asks for a text and the other
for bytes that are then decoded, but both sort the files in the same way: first those that cannot be
had, then those that are no text, then those whose text is no set.

* `Loads`: what the two ways make of a content;
* `loads_load_verify`: they make this of every content;
* **`loaders_agree`**: they succeed together, on the same set, and fail together, with the same
  fault but for the wording of bytes that are no text.
-/

import IncompleteBeta.Proofs.Text.Utf8
import IncompleteBeta.Proofs.Verification

namespace IncompleteBeta

open Text (utf8Bytes decodeUtf8 decodeUtf8_eq_ok_iff decodeUtf8_utf8Bytes)

/-- The content of a file that is there, with the bytes of a text. -/
def IsText (content : Content) : Prop := ∃ text : String, content = .ok (utf8Bytes text)

/-- **What the two ways make of a content**: a fault of the system, which both tell; bytes of no
text, which only one of them locates; a text that is no set, for the reason that both tell; or a
set, and the report on it. -/
inductive Loads (path : PathName) :
    Content → Except LoadFault FixtureSet → Except LoadFault Report → Prop where
  | refused (fault : SystemFault) : Loads path (.error fault)
      (.error (.file path (.system fault))) (.error (.file path (.system fault)))
  | notText (bytes : List UInt8) (fault : Text.Utf8Fault) (none : ¬IsText (.ok bytes)) :
      Loads path (.ok bytes) (.error (.file path .notTextAnywhere))
        (.error (.file path (.notText fault)))
  | notSet (text : String) (fault : Json.Fault) (fails : FixtureSet.ofJson text = .error fault) :
      Loads path (.ok (utf8Bytes text)) (.error (.json path fault)) (.error (.json path fault))
  | set (text : String) (set : FixtureSet) (parses : FixtureSet.ofJson text = .ok set) :
      Loads path (.ok (utf8Bytes text)) (.ok set) (.ok (set.verify (utf8Bytes text)))

section Loading

variable (path : PathName) (content : Content)

/-- **The two ways make of every content what is said of it.** -/
theorem loads_load_verify :
    Loads path content (FixtureSet.load path content) (verifyFile path content) := by
  cases content with
  | error fault => exact .refused fault
  | ok bytes =>
    unfold FixtureSet.load verifyFile
    dsimp only
    cases decoded : decodeUtf8 bytes with
    | error fault =>
      refine .notText bytes fault ?_
      rintro ⟨text, same⟩
      cases same
      rw [decodeUtf8_utf8Bytes] at decoded
      cases decoded
    | ok characters =>
      obtain rfl := decodeUtf8_eq_ok_iff.mp decoded
      dsimp only
      cases parsed : FixtureSet.ofJson (String.ofList characters) with
      | error fault => exact .notSet _ fault parsed
      | ok set => exact .set _ set parsed

/-- **The two ways to take up a file agree.** They succeed together, and then the report is that on
the loaded set and on the bytes; they find fault with the file together, where it cannot be had or
is no text, whatever JSON it begins with; and they find the same fault in a text. -/
theorem loaders_agree :
    Loads path content (FixtureSet.load path content) (verifyFile path content) ∧
    ((∃ set, FixtureSet.load path content = .ok set) ↔
      ∃ report, verifyFile path content = .ok report) ∧
    (∀ report, verifyFile path content = .ok report ↔ ∃ bytes set, content = .ok bytes ∧
      FixtureSet.load path content = .ok set ∧ report = set.verify bytes) ∧
    ((∃ fault, FixtureSet.load path content = .error (.file path fault)) ↔ ¬IsText content) ∧
    ((∃ fault, verifyFile path content = .error (.file path fault)) ↔ ¬IsText content) ∧
    ∀ place fault, FixtureSet.load path content = .error (.json place fault) ↔
      verifyFile path content = .error (.json place fault) := by
  have loads := loads_load_verify path content
  refine ⟨loads, ?_⟩
  generalize FixtureSet.load path content = loaded at loads ⊢
  generalize verifyFile path content = verified at loads ⊢
  cases loads with
  | refused fault =>
    have none : ¬IsText (.error fault) := nofun
    exact ⟨iff_of_false nofun nofun, fun _ => iff_of_false nofun nofun,
      iff_of_true ⟨_, rfl⟩ none, iff_of_true ⟨_, rfl⟩ none, fun _ _ => iff_of_false nofun nofun⟩
  | notText bytes fault none =>
    exact ⟨iff_of_false nofun nofun, fun _ => iff_of_false nofun nofun,
      iff_of_true ⟨_, rfl⟩ none, iff_of_true ⟨_, rfl⟩ none, fun _ _ => iff_of_false nofun nofun⟩
  | notSet text fault fails =>
    have some : ¬¬IsText (.ok (utf8Bytes text)) := not_not.mpr ⟨text, rfl⟩
    refine ⟨iff_of_false nofun nofun, fun _ => iff_of_false nofun nofun, iff_of_false nofun some,
      iff_of_false nofun some, fun place other => ?_⟩
    rw [Except.error.injEq, Except.error.injEq]
  | set text set parses =>
    have some : ¬¬IsText (.ok (utf8Bytes text)) := not_not.mpr ⟨text, rfl⟩
    refine ⟨iff_of_true ⟨_, rfl⟩ ⟨_, rfl⟩, fun report => ⟨?_, ?_⟩, iff_of_false nofun some,
      iff_of_false nofun some, fun _ _ => iff_of_false nofun nofun⟩
    · rintro ⟨⟩
      exact ⟨_, set, rfl, rfl, rfl⟩
    · rintro ⟨_, _, ⟨⟩, ⟨⟩, rfl⟩
      rfl

end Loading

end IncompleteBeta
