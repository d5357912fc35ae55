/-
**Fixtures read back from their own text.**

A set of fixtures is written with the shortest digits of its doubles. Everything else comes back as
it was; the doubles come back as the reader makes them of their digits.

* `FixtureSet.numbers`: the doubles of a set;
* `FixtureSet.reread`: the set with every double as it is read from its own text;
* **`ofJson_toJson`**: a set of finite doubles is read back as that;
* `isFinite_of_ofJson`: a set that is read has finite doubles only;
* **`fixtures_round_trip`**: a set is read back from its own text exactly when each of its doubles
  is.
-/

import IncompleteBeta.Fixture.Basic
import IncompleteBeta.Proofs.Json.Accepted
import IncompleteBeta.Proofs.Json.Records

namespace IncompleteBeta

open Json

/-! ### The doubles of a set -/

/-- The doubles of a case, in the order in which they are written. -/
def Fixture.numbers (fixture : Fixture) : List Float :=
  [fixture.a, fixture.b, fixture.arg] ++ fixture.expected.toList ++ fixture.tolerance.toList

/-- The doubles of a set. -/
def FixtureSet.numbers (set : FixtureSet) : List Float := set.cases.flatMap Fixture.numbers

/-- A case with every double as it is read from its own text, or the first fault in reading one. -/
def Fixture.reread (fixture : Fixture) : Except Fault Fixture := do
  let a ← Json.reread fixture.a
  let b ← Json.reread fixture.b
  let arg ← Json.reread fixture.arg
  let expected ← fixture.expected.mapM Json.reread
  let tolerance ← fixture.tolerance.mapM Json.reread
  return { fixture with a, b, arg, expected, tolerance }

/-- A set with every double as it is read from its own text, or the first fault in reading one. -/
def FixtureSet.reread (set : FixtureSet) : Except Fault FixtureSet := do
  return { set with cases := ← set.cases.mapM Fixture.reread }

/-! ### Reading what was written -/

section Reading

variable {spacing : Spacing}

theorem resolve_evaluator (function : Evaluator) :
    resolve Evaluator.fixtureNames function.fixtureName = .ok function := by
  cases function <;> rfl

/-- What the members of a case come to. -/
def Fixture.gathered (fixture : Fixture) : Except Fault FixtureDraft :=
  Except.ok fixture.name >>= fun name => Except.ok fixture.function >>= fun function =>
    Json.reread fixture.a >>= fun a => Json.reread fixture.b >>= fun b =>
    Json.reread fixture.arg >>= fun arg => fixture.expected.mapM Json.reread >>= fun expected =>
    fixture.tolerance.mapM Json.reread >>= fun tolerance =>
    fixture.expectedFailure.mapM Except.ok >>= fun expectedFailure =>
    .ok ⟨some name, some function, some a, some b, some arg, expected.map some, tolerance.map some,
      expectedFailure.map some⟩

theorem gathered_finish (fixture : Fixture) :
    fixture.gathered >>= Fixture.format.finish = fixture.reread := by
  obtain ⟨name, function, a, b, arg, expected, tolerance, expectedFailure⟩ := fixture
  simp only [Fixture.gathered, Fixture.reread, bind_assoc, ok_bind]
  refine bind_congr fun a => ?_
  refine bind_congr fun b => ?_
  refine bind_congr fun arg => ?_
  refine bind_congr fun expected => ?_
  refine bind_congr fun tolerance => ?_
  cases expected <;> cases tolerance <;> cases expectedFailure <;> rfl

/-- The members of a case, one after the other. -/
theorem toValue_eq (fixture : Fixture) : fixture.toValue =
    .object (("name", .string fixture.name) :: ("function", .string fixture.function.fixtureName)
      :: ("a", .float fixture.a) :: ("b", .float fixture.b) :: ("arg", .float fixture.arg)
      :: (optionalMember "expected" (fixture.expected.map .float)
        ++ (optionalMember "rel_tol" (fixture.tolerance.map .float)
          ++ (optionalMember "expected_failure" (fixture.expectedFailure.map .string)
            ++ [])))) := by
  simp only [Fixture.toValue, List.append_assoc, List.append_nil, List.cons_append, List.nil_append]

/-- **A case is read with every double as it is read from its own text.** -/
theorem reads_fixture (level : Nat) {fixture : Fixture}
    (finite : ∀ x ∈ fixture.numbers, x.isFinite = true) :
    Reads Fixture.format.read (spacedText spacing level fixture.toValue) fixture.reread := by
  rw [toValue_eq, ← gathered_finish]
  refine reads_record ?_
  obtain ⟨name, function, a, b, arg, expected, tolerance, expectedFailure⟩ := fixture
  simp only [Fixture.numbers, List.forall_mem_append, List.forall_mem_cons, List.not_mem_nil,
    false_imp_iff, implies_true, and_true, Option.mem_toList] at finite
  obtain ⟨⟨⟨finite_a, finite_b, finite_arg⟩, finite_expected⟩, finite_tolerance⟩ := finite
  refine .of (⟨some ·, none, none, none, none, none, none, none⟩) rfl rfl rfl
    (reads_string name) fun name => ?_
  refine .of (⟨some name, some ·, none, none, none, none, none, none⟩) rfl rfl rfl
    (resolve_evaluator function ▸ reads_name _ _) fun function => ?_
  refine .of (⟨some name, some function, some ·, none, none, none, none, none⟩) rfl rfl rfl
    (reads_float finite_a) fun a => ?_
  refine .of (⟨some name, some function, some a, some ·, none, none, none, none⟩) rfl rfl rfl
    (reads_float finite_b) fun b => ?_
  refine .of (⟨some name, some function, some a, some b, some ·, none, none, none⟩) rfl rfl rfl
    (reads_float finite_arg) fun arg => ?_
  refine .optional (⟨some name, some function, some a, some b, some arg, ·, none, none⟩)
    rfl rfl rfl rfl (fun x some => writesNull_float (finite_expected x some))
    (fun x some => reads_float (finite_expected x some)) fun expected => ?_
  refine .optional
    (⟨some name, some function, some a, some b, some arg, expected.map some, ·, none⟩)
    rfl rfl rfl rfl (fun x some => writesNull_float (finite_tolerance x some))
    (fun x some => reads_float (finite_tolerance x some)) fun tolerance => ?_
  exact .optional
    (⟨some name, some function, some a, some b, some arg, expected.map some, tolerance.map some, ·⟩)
    rfl rfl rfl rfl (fun _ _ => rfl) (fun _ _ => reads_string _) fun expectedFailure => .nil _

/-- What the members of a set come to. -/
def FixtureSet.gathered (set : FixtureSet) : Except Fault FixtureSetDraft :=
  Except.ok set.version >>= fun version => Except.ok set.family >>= fun family =>
    set.cases.mapM Fixture.reread >>= fun cases => .ok ⟨some version, some family, some cases⟩

theorem gathered_finish_set (set : FixtureSet) :
    set.gathered >>= FixtureSet.format.finish = set.reread := by
  unfold FixtureSet.gathered FixtureSet.reread
  simp only [bind_assoc]
  exact bind_congr fun cases => rfl

/-- **A set is read with every double as it is read from its own text.** -/
theorem reads_fixtureSet (level : Nat) {set : FixtureSet}
    (finite : ∀ x ∈ set.numbers, x.isFinite = true) :
    Reads FixtureSet.format.read (spacedText spacing level set.toValue) set.reread := by
  rw [← gathered_finish_set]
  refine reads_record ?_
  refine .of (⟨some ·, none, none⟩) rfl rfl rfl (reads_string set.version) fun version => ?_
  refine .of (⟨some version, some ·, none⟩) rfl rfl rfl (reads_string set.family) fun family => ?_
  refine .of (⟨some version, some family, some ·⟩) rfl rfl rfl
    (reads_list fun fixture inside => reads_fixture _ fun x among => ?_) fun cases => .nil _
  exact finite x (List.mem_flatMap.mpr ⟨fixture, inside, among⟩)

end Reading

/-! ### Accepted texts -/

section Accepted

/-- Only finite doubles in the members of a case. -/
structure FixtureDraft.Finite (draft : FixtureDraft) : Prop where
  a : ∀ x ∈ draft.a, x.isFinite = true
  b : ∀ x ∈ draft.b, x.isFinite = true
  arg : ∀ x ∈ draft.arg, x.isFinite = true
  expected : ∀ x ∈ draft.expected.join, x.isFinite = true
  tolerance : ∀ x ∈ draft.tolerance.join, x.isFinite = true

/-- **A case that is read has finite doubles only.** -/
theorem yields_fixture :
    Yields Fixture.format.read fun fixture => ∀ x ∈ fixture.numbers, x.isFinite = true := by
  refine yields_record (I := FixtureDraft.Finite) ?_ ?_ ?_
  · exact ⟨forall_mem_none, forall_mem_none, forall_mem_none, forall_mem_none, forall_mem_none⟩
  · simp only [Fixture.format, List.forall_mem_cons, List.not_mem_nil, false_imp_iff, implies_true,
      and_true]
    refine ⟨?_, ?_, ?_, ?_, ?_, ?_, ?_, ?_⟩ <;> intro draft holds
    · exact yields_of (yields_any _) fun _ _ => { holds with }
    · exact yields_of (yields_any _) fun _ _ => { holds with }
    · exact yields_of yields_float fun _ finite => { holds with a := forall_mem_some finite }
    · exact yields_of yields_float fun _ finite => { holds with b := forall_mem_some finite }
    · exact yields_of yields_float fun _ finite => { holds with arg := forall_mem_some finite }
    · exact yields_trailing (yields_of (yields_optional yields_float) fun _ finite =>
        { holds with expected := finite })
    · exact yields_trailing (yields_of (yields_optional yields_float) fun _ finite =>
        { holds with tolerance := finite })
    · exact yields_trailing (yields_of (yields_any _) fun _ _ => { holds with })
  · intro draft fixture holds completed
    simp only [Fixture.format, bind_eq_ok] at completed
    obtain ⟨name, _, function, _, a, held_a, b, held_b, arg, held_arg, ⟨⟩⟩ := completed
    simp only [Fixture.numbers, List.forall_mem_append, List.forall_mem_cons, List.not_mem_nil,
      false_imp_iff, implies_true, and_true, Option.mem_toList]
    exact ⟨⟨⟨holds.a a (mem_of_needed held_a), holds.b b (mem_of_needed held_b),
      holds.arg arg (mem_of_needed held_arg)⟩, holds.expected⟩, holds.tolerance⟩

/-- **A set that is read has finite doubles only.** -/
theorem isFinite_of_ofJson {text : String} {set : FixtureSet}
    (read : FixtureSet.ofJson text = .ok set) : ∀ x ∈ set.numbers, x.isFinite = true := by
  let finite (cases : List Fixture) : Prop :=
    ∀ fixture ∈ cases, ∀ x ∈ fixture.numbers, x.isFinite = true
  have yields : Yields FixtureSet.format.read fun set => finite set.cases := by
    refine yields_record (I := fun draft => ∀ cases ∈ draft.cases, finite cases)
      forall_mem_none ?_ ?_
    · simp only [FixtureSet.format, List.forall_mem_cons, List.not_mem_nil, false_imp_iff,
        implies_true, and_true]
      refine ⟨?_, ?_, ?_⟩ <;> intro draft holds
      · exact yields_of (yields_any _) fun _ _ => holds
      · exact yields_of (yields_any _) fun _ _ => holds
      · exact yields_of (yields_list yields_fixture) fun _ read => forall_mem_some read
    · intro draft set holds completed
      simp only [FixtureSet.format, bind_eq_ok] at completed
      obtain ⟨version, _, family, _, cases, held, ⟨⟩⟩ := completed
      exact holds cases (mem_of_needed held)
  exact List.forall_mem_flatMap.mpr (yields.whole read)

end Accepted

/-! ### Round trips -/

section RoundTrips

variable {set : FixtureSet}

/-- **A set of finite doubles is read back with every double as it is read from its own text.** -/
theorem ofJson_toJson (finite : ∀ x ∈ set.numbers, x.isFinite = true) :
    FixtureSet.ofJson set.toJson = set.reread := by
  rw [FixtureSet.ofJson, FixtureSet.toJson, Json.pretty, prettyText_eq]
  exact (reads_fixtureSet 0 finite).whole

theorem Fixture.reread_eq_ok {fixture : Fixture} :
    fixture.reread = .ok fixture ↔ ∀ x ∈ fixture.numbers, Json.reread x = .ok x := by
  obtain ⟨name, function, a, b, arg, expected, tolerance, expectedFailure⟩ := fixture
  simp only [Fixture.numbers, List.forall_mem_append, List.forall_mem_cons, List.not_mem_nil,
    false_imp_iff, implies_true, and_true, ← Option.mapM_eq_ok_self]
  simp only [Fixture.reread, bind_eq_ok]
  constructor
  · rintro ⟨readA, read_a, readB, read_b, readArg, read_arg, readExpected, reads, readTolerance,
      tolerated, ⟨⟩⟩
    exact ⟨⟨⟨read_a, read_b, read_arg⟩, reads⟩, tolerated⟩
  · rintro ⟨⟨⟨read_a, read_b, read_arg⟩, reads⟩, tolerated⟩
    exact ⟨a, read_a, b, read_b, arg, read_arg, expected, reads, tolerance, tolerated, rfl⟩

theorem FixtureSet.reread_eq_ok :
    set.reread = .ok set ↔ ∀ x ∈ set.numbers, Json.reread x = .ok x := by
  have same : set.reread = .ok set ↔ set.cases.mapM Fixture.reread = .ok set.cases :=
    bind_put_eq_ok (fun cases => { set with cases }) fun _ _ same => congrArg FixtureSet.cases same
  rw [same, mapM_eq_ok_self, FixtureSet.numbers, List.forall_mem_flatMap]
  exact forall₂_congr fun fixture _ => Fixture.reread_eq_ok

/-- **A set of finite doubles is read back from its own text exactly if each of its doubles is.** -/
theorem ofJson_toJson_iff (finite : ∀ x ∈ set.numbers, x.isFinite = true) :
    FixtureSet.ofJson set.toJson = .ok set ↔ ∀ x ∈ set.numbers, ReadsBack x := by
  rw [ofJson_toJson finite, FixtureSet.reread_eq_ok]
  exact forall₂_congr fun x inside => (readsBack_iff (finite x inside)).symm

/-- **Sets come back from their own text.** Of a set of finite doubles, or of one that was read, all
is read back but the doubles, and these are read back as their own digits are: all the same exactly
if each double is, and in particular if the digits of each are brief. -/
theorem fixtures_round_trip (set : FixtureSet)
    (source : (∀ x ∈ set.numbers, x.isFinite = true) ∨ ∃ text, FixtureSet.ofJson text = .ok set) :
    FixtureSet.ofJson set.toJson = set.reread ∧
      (FixtureSet.ofJson set.toJson = .ok set ↔ ∀ x ∈ set.numbers, ReadsBack x) ∧
      ((∀ x ∈ set.numbers, Brief x) → FixtureSet.ofJson set.toJson = .ok set) := by
  have finite : ∀ x ∈ set.numbers, x.isFinite = true := by
    rcases source with finite | ⟨text, read⟩
    · exact finite
    · exact isFinite_of_ofJson read
  refine ⟨ofJson_toJson finite, ofJson_toJson_iff finite, fun brief => ?_⟩
  exact (ofJson_toJson_iff finite).mpr fun x inside =>
    readsBack_of_brief (finite x inside) (brief x inside)

/-- One case with a negative zero and without a tolerance. -/
def signedZeroSet : FixtureSet :=
  ⟨"1", "beta",
    [⟨"\u2028 \"quoted\"", .lowerTail, 0.1, 2.5e-7, -0.0, some 1234.5, none, some "domain"⟩]⟩

theorem signedZero_round_trip : FixtureSet.ofJson signedZeroSet.toJson = .ok signedZeroSet := by
  have finite : ∀ x ∈ signedZeroSet.numbers, x.isFinite = true := by decide +kernel
  refine (fixtures_round_trip signedZeroSet (.inl finite)).2.2 fun x inside => ⟨?_, ?_, ?_⟩
  all_goals
    revert x
    decide +kernel

/-- **A set that has been read need not come back from its own text.** The double is written as
`2e-32`, and neither a division by `10 ^ 32` nor its rounding leads back to it. -/
theorem own_text_read_otherwise :
    ∃ (text : String) (set : FixtureSet), FixtureSet.ofJson text = .ok set ∧
      (∀ x ∈ set.numbers, x.isFinite = true) ∧ FixtureSet.ofJson set.toJson ≠ .ok set := by
  let set : FixtureSet := ⟨"1", "beta", [⟨"small", .lowerTail, 2e-32, 1.0, 0.5, none, none, none⟩]⟩
  let text := "\x7b\"version\":\"1\",\"family\":\"beta\",\"cases\":[\x7b\"name\":\"small\","
    ++ "\"function\":\"ibeta\",\"a\":20e-33,\"b\":1,\"arg\":0.5\x7d]\x7d"
  exact ⟨text, set, by decide +kernel, by decide +kernel, by decide +kernel⟩

end RoundTrips

end IncompleteBeta
