/-
**Reports of a verification.**

* `CaseResult`, `Report`: what came of one case, and of all the cases of a set;
* `Report.allPassed`, `Report.failures`: the verdict and the cases against it;
* `Report.ofJson`, `Report.toValue`: reports as JSON.
-/

import IncompleteBeta.Json.Record

namespace IncompleteBeta

/-- What came of one case. -/
structure CaseResult where
  name : String
  function : String
  passed : Bool
  expected : String
  actual : String
  error : Option Float
deriving DecidableEq, Repr

/-- What came of the cases of a set. -/
structure Report where
  family : String
  version : String
  digest : String
  total : Nat
  passed : Nat
  failed : Nat
  cases : List CaseResult
deriving DecidableEq, Repr

def Report.allPassed (report : Report) : Bool := report.failed == 0

def Report.failures (report : Report) : List CaseResult :=
  report.cases.filter fun result => !result.passed

/-! ### Reading -/

/-- The members of a result that have been read. -/
structure CaseResultDraft where
  name : Option String := none
  function : Option String := none
  passed : Option Bool := none
  expected : Option String := none
  actual : Option String := none
  error : Option (Option Float) := none

def CaseResult.format : Json.RecordFormat CaseResultDraft CaseResult where
  title := "struct CaseResult"
  empty := {}
  members :=
    [.of "name" (·.name) (fun draft v => { draft with name := some v }) Json.readString,
      .of "function" (·.function) (fun draft v => { draft with function := some v })
        Json.readString,
      .of "passed" (·.passed) (fun draft v => { draft with passed := some v }) Json.readBoolean,
      .of "expected" (·.expected) (fun draft v => { draft with expected := some v })
        Json.readString,
      .of "actual" (·.actual) (fun draft v => { draft with actual := some v }) Json.readString,
      .trailing <| .of "error" (·.error) (fun draft v => { draft with error := some v })
        (Json.readOptional Json.readFloat)]
  complete := fun draft => do
    return { name := ← Json.needed "name" draft.name
             function := ← Json.needed "function" draft.function
             passed := ← Json.needed "passed" draft.passed
             expected := ← Json.needed "expected" draft.expected
             actual := ← Json.needed "actual" draft.actual
             error := draft.error.join }

/-- The members of a report that have been read. -/
structure ReportDraft where
  family : Option String := none
  version : Option String := none
  digest : Option String := none
  total : Option Nat := none
  passed : Option Nat := none
  failed : Option Nat := none
  cases : Option (List CaseResult) := none

def Report.format : Json.RecordFormat ReportDraft Report where
  title := "struct VerificationReport"
  empty := {}
  members :=
    [.of "family" (·.family) (fun draft v => { draft with family := some v }) Json.readString,
      .of "version" (·.version) (fun draft v => { draft with version := some v }) Json.readString,
      .of "source_sha256" (·.digest) (fun draft v => { draft with digest := some v })
        Json.readString,
      .of "total" (·.total) (fun draft v => { draft with total := some v })
        (Json.readNatural "usize"),
      .of "passed" (·.passed) (fun draft v => { draft with passed := some v })
        (Json.readNatural "usize"),
      .of "failed" (·.failed) (fun draft v => { draft with failed := some v })
        (Json.readNatural "usize"),
      .of "cases" (·.cases) (fun draft v => { draft with cases := some v })
        (Json.readList CaseResult.format.read)]
  complete := fun draft => do
    return { family := ← Json.needed "family" draft.family
             version := ← Json.needed "version" draft.version
             digest := ← Json.needed "source_sha256" draft.digest
             total := ← Json.needed "total" draft.total
             passed := ← Json.needed "passed" draft.passed
             failed := ← Json.needed "failed" draft.failed
             cases := ← Json.needed "cases" draft.cases }

def Report.ofJson (text : String) : Except Json.Fault Report :=
  Json.whole Report.format.read text

/-! ### Writing -/

def CaseResult.toValue (result : CaseResult) : Json :=
  .object
    ([("name", .string result.name),
        ("function", .string result.function),
        ("passed", .boolean result.passed),
        ("expected", .string result.expected),
        ("actual", .string result.actual)]
      ++ Json.optionalMember "error" (result.error.map .float))

def Report.toValue (report : Report) : Json :=
  .object
    [("family", .string report.family),
      ("version", .string report.version),
      ("source_sha256", .string report.digest),
      ("total", .ofNat report.total),
      ("passed", .ofNat report.passed),
      ("failed", .ofNat report.failed),
      ("cases", .array (report.cases.map CaseResult.toValue))]

end IncompleteBeta
