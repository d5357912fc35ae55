/-
**Fixtures.**

A fixture asks an evaluator for one value and says what should come of it: a value with a tolerance,
or a kind of failure.

* `Fixture`, `FixtureSet`: one case, and the cases of one family;
* `Evaluator.fixtureNames`: the names of the evaluators in fixtures;
* `FixtureSet.ofJson`: the set that a text holds;
* `FixtureSet.toJson`: the text of a set.
-/

import IncompleteBeta.Failure.Message
import IncompleteBeta.Json.Record

namespace IncompleteBeta

/-- One case. -/
structure Fixture where
  name : String
  function : Evaluator
  a : Float
  b : Float
  /-- A probability for the quantiles, a point for the tails. -/
  arg : Float
  expected : Option Float
  tolerance : Option Float
  expectedFailure : Option String
deriving DecidableEq, Repr

/-- The cases of one family. -/
structure FixtureSet where
  version : String
  family : String
  cases : List Fixture
deriving DecidableEq, Repr

/-! ### Names -/

/-- An identifier in lower case, with an underscore before each capital but one that begins it. -/
def snakeCase (identifier : String) : String :=
  match identifier.toList with
  | [] => ""
  | first :: rest =>
    String.ofList (first.toLower :: rest.flatMap fun c =>
      if c.isUpper then ['_', c.toLower] else [c])

/-- The identifier from which the name of an evaluator in fixtures is derived. -/
def Evaluator.identifier : Evaluator → String
  | .quantile => "IbetaInv"
  | .upperQuantile => "IbetacInv"
  | .lowerTail => "Ibeta"
  | .upperTail => "Ibetac"

def Evaluator.fixtureName (evaluator : Evaluator) : String := snakeCase evaluator.identifier

/-- The evaluators with their names in fixtures, in the order in which messages list them. -/
def Evaluator.fixtureNames : List (String × Evaluator) :=
  [Evaluator.quantile, .upperQuantile, .lowerTail, .upperTail].map fun evaluator =>
    (evaluator.fixtureName, evaluator)

/-! ### Reading -/

/-- The members of a case that have been read. -/
structure FixtureDraft where
  name : Option String := none
  function : Option Evaluator := none
  a : Option Float := none
  b : Option Float := none
  arg : Option Float := none
  expected : Option (Option Float) := none
  tolerance : Option (Option Float) := none
  expectedFailure : Option (Option String) := none

def Fixture.format : Json.RecordFormat FixtureDraft Fixture where
  title := "struct FixtureCase"
  empty := {}
  members :=
    [.of "name" (·.name) (fun draft v => { draft with name := some v }) Json.readString,
      .of "function" (·.function) (fun draft v => { draft with function := some v })
        (Json.readName Evaluator.fixtureNames),
      .of "a" (·.a) (fun draft v => { draft with a := some v }) Json.readFloat,
      .of "b" (·.b) (fun draft v => { draft with b := some v }) Json.readFloat,
      .of "arg" (·.arg) (fun draft v => { draft with arg := some v }) Json.readFloat,
      .trailing <| .of "expected" (·.expected) (fun draft v => { draft with expected := some v })
        (Json.readOptional Json.readFloat),
      .trailing <| .of "rel_tol" (·.tolerance) (fun draft v => { draft with tolerance := some v })
        (Json.readOptional Json.readFloat),
      .trailing <| .of "expected_failure" (·.expectedFailure)
        (fun draft v => { draft with expectedFailure := some v })
        (Json.readOptional Json.readString)]
  complete := fun draft => do
    return { name := ← Json.needed "name" draft.name
             function := ← Json.needed "function" draft.function
             a := ← Json.needed "a" draft.a
             b := ← Json.needed "b" draft.b
             arg := ← Json.needed "arg" draft.arg
             expected := draft.expected.join
             tolerance := draft.tolerance.join
             expectedFailure := draft.expectedFailure.join }

/-- The members of a set that have been read. -/
structure FixtureSetDraft where
  version : Option String := none
  family : Option String := none
  cases : Option (List Fixture) := none

def FixtureSet.format : Json.RecordFormat FixtureSetDraft FixtureSet where
  title := "struct FixtureSet"
  empty := {}
  members :=
    [.of "version" (·.version) (fun draft v => { draft with version := some v }) Json.readString,
      .of "family" (·.family) (fun draft v => { draft with family := some v }) Json.readString,
      .of "cases" (·.cases) (fun draft v => { draft with cases := some v })
        (Json.readList Fixture.format.read)]
  complete := fun draft => do
    return { version := ← Json.needed "version" draft.version
             family := ← Json.needed "family" draft.family
             cases := ← Json.needed "cases" draft.cases }

def FixtureSet.ofJson (text : String) : Except Json.Fault FixtureSet :=
  Json.whole FixtureSet.format.read text

/-! ### Writing -/

def Fixture.toValue (fixture : Fixture) : Json :=
  .object
    ([("name", .string fixture.name),
        ("function", .string fixture.function.fixtureName),
        ("a", .float fixture.a),
        ("b", .float fixture.b),
        ("arg", .float fixture.arg)]
      ++ Json.optionalMember "expected" (fixture.expected.map .float)
      ++ Json.optionalMember "rel_tol" (fixture.tolerance.map .float)
      ++ Json.optionalMember "expected_failure" (fixture.expectedFailure.map .string))

def FixtureSet.toValue (set : FixtureSet) : Json :=
  .object
    [("version", .string set.version),
      ("family", .string set.family),
      ("cases", .array (set.cases.map Fixture.toValue))]

def FixtureSet.toJson (set : FixtureSet) : String := set.toValue.pretty

end IncompleteBeta
