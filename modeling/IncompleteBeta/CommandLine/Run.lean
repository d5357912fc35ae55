/-
**What the commands do.**

* `evaluation`: the JSON object that `eval` prints;
* `selectFixtures`: the files that `verify` looks at;
* `Verification`: a run of `verify` on its way, and what one report adds to it;
* `RunFault.describe`: what a run that breaks off writes about it;
* `Host.evaluate`, `Host.verify`, `Host.run`: the commands and the program, on any system;
* `evaluateTree`, `verifyTree`, `runTree`: these on a tree of files.
-/

import IncompleteBeta.CommandLine.Arguments
import IncompleteBeta.CommandLine.Host
import IncompleteBeta.Log.Emitter
import IncompleteBeta.Verification.Verdict

namespace IncompleteBeta.CommandLine

open Files (FileTree)

/-! ### Faults -/

/-- Why a run breaks off. -/
inductive RunFault where
  | usage (message : String)
  | load (fault : LoadFault)
  | output (fault : SystemFault)
deriving DecidableEq, Repr

/-- A fault without a number, with all that is known of it. -/
def describePlain (kind message : String) : String :=
  "Error \x7b kind: " ++ kind ++ ", message: " ++ Text.quoted message ++ " \x7d"

def describeSystem (fault : SystemFault) : String :=
  match fault.code? with
  | some code =>
    "Os \x7b code: " ++ toString code ++ ", kind: " ++ fault.kind ++ ", message: "
      ++ Text.quoted fault.describe ++ " \x7d"
  | none => describePlain fault.kind fault.describe

/-- Bytes that are no text, with all that is known of them. -/
def describeNotText : Option Text.Utf8Fault → String
  | some fault =>
    let length := match fault.badLength with
      | some length => "Some(" ++ toString length ++ ")"
      | none => "None"
    "Custom \x7b kind: InvalidData, error: Utf8Error \x7b valid_up_to: "
      ++ toString fault.validUpTo ++ ", error_len: " ++ length ++ " \x7d \x7d"
  | none => describePlain "InvalidData" FileFault.notTextAnywhere.message

def describeFile : FileFault → String
  | .system fault => describeSystem fault
  | .notText fault => describeNotText (some fault)
  | .notTextAnywhere => describeNotText none

/-- A fault with all that is known of it. -/
def RunFault.describe (wording : Wording) : RunFault → String
  | .usage message => "Usage(" ++ Text.quoted message ++ ")"
  | .load (.file path fault) =>
    "Io \x7b path: " ++ Text.quotedBytes path ++ ", source: " ++ describeFile fault ++ " \x7d"
  | .load (.json path fault) =>
    "Json \x7b path: " ++ Text.quotedBytes path ++ ", source: " ++ (wording path fault).describe
      ++ " \x7d"
  | .output fault => describeSystem fault

/-! ### Evaluating -/

def unknownFunction (name : String) : String :=
  "unknown function '" ++ name ++ "' (expected ibeta_inv, ibetac_inv, ibeta or ibetac)"

def functionNamed (name : String) : Except RunFault Evaluator :=
  match Evaluator.ofName? name with
  | some function => .ok function
  | none => .error (.usage (unknownFunction name))

def quantileMembers : Except Failure Quantile → Except Failure (List (String × Json)) :=
  Except.map fun root =>
    [("value", .ofFloat root.value), ("complement", .ofFloat root.complement)]

def tailMembers : Except Failure Float → Except Failure (List (String × Json)) :=
  Except.map fun tail => [("value", .ofFloat tail)]

def resultMembers (function : Evaluator) (a b arg : Float) :
    Except Failure (List (String × Json)) :=
  match function with
  | .quantile => quantileMembers (quantile a b arg)
  | .upperQuantile => quantileMembers (upperQuantile a b arg)
  | .lowerTail => tailMembers (lowerTail a b arg)
  | .upperTail => tailMembers (upperTail a b arg)

def failureMember (failure : Failure) : String × Json :=
  ("error", Json.sortedObject
    [("kind", .string failure.kind.name), ("message", .string failure.message)])

/-- What an evaluation prints: the function, its arguments, and the result or the failure. -/
def evaluation (function : Evaluator) (a b arg : Float) : Json :=
  Json.sortedObject
    ([("function", .string function.name), ("a", .ofFloat a), ("b", .ofFloat b),
        ("arg", .ofFloat arg)]
      ++ match resultMembers function a b arg with
        | .ok members => members
        | .error failure => [failureMember failure])

/-! ### Verifying -/

def fixtureExtension : FileName := Text.utf8Bytes ".json"

/-- Whether a name ends in a stem and the extension of fixtures. -/
def hasFixtureExtension (name : FileName) : Bool :=
  fixtureExtension.isSuffixOf name && decide (fixtureExtension.length < name.length)

def noFixtures (fixture : PathName) : RunFault :=
  .usage ("no fixture JSON files found in " ++ Text.displayed fixture)

/-- The files to verify: those with the extension in a directory, in the order of their names, or
the file itself where no directory stands at the path. -/
def selectFixtures (fixture : PathName) (listing : Option (List FileName)) :
    Except RunFault (List PathName) :=
  match listing with
  | none => .ok [fixture]
  | some names =>
    let chosen := (names.filter hasFixtureExtension).mergeSort fun left right => !(right < left)
    if chosen.isEmpty then .error (noFixtures fixture)
    else .ok (chosen.map (Files.entryPath fixture))

def resultEntry (clock : Clock) (family : String) (result : CaseResult) : Log.Entry :=
  { Log.Entry.new clock "" (if result.passed then .info else .error) "case_result" with
    family := some family
    symbol := some result.function
    verdict := some (if result.passed then .pass else .fail)
    details := some (Json.sortedObject
      [("case", .string result.name), ("expected", .string result.expected),
        ("actual", .string result.actual),
        ("error", (result.error.map Json.ofFloat).getD .null)]) }

def reportEntry (clock : Clock) (elapsed : Nat) (report : Report) : Log.Entry :=
  { Log.Entry.new clock "" (if report.allPassed then .info else .warn) "fixture_set_verified" with
    family := some report.family
    verdict := some (if report.allPassed then .pass else .fail)
    duration := some elapsed
    details := some (Json.sortedObject
      [("version", .string report.version), ("source_sha256", .string report.digest),
        ("total", .ofNat report.total), ("passed", .ofNat report.passed),
        ("failed", .ofNat report.failed)]) }

/-- The log entries for a report: one for each case, and one for all of them. -/
def reportEntries (clock : Clock) (elapsed : Nat) (report : Report) : List Log.Entry :=
  report.cases.map (resultEntry clock report.family) ++ [reportEntry clock elapsed report]

/-- What is said of a report while the run goes on: the counts, and each case that failed. -/
def reportLines (path : PathName) (report : Report) : String :=
  Text.displayed path ++ ": " ++ toString report.passed ++ "/" ++ toString report.total
    ++ " passed ("
    ++ report.family ++ ")\n"
    ++ String.join (report.failures.map fun result =>
      "  FAIL " ++ result.name ++ " [" ++ result.function ++ "]: expected " ++ result.expected
        ++ ", got " ++ result.actual ++ "\n")

/-- A run of `verify` on its way. -/
structure Verification where
  emitter : Log.Emitter
  log : String := ""
  reports : List Report := []

namespace Verification

def start : Verification := { emitter := { runId := "betainv-verify" } }

def record (run : Verification) (clock : Clock) (elapsed : Nat) (report : Report) :
    Verification :=
  let (texts, emitter) :=
    run.emitter.run ((reportEntries clock elapsed report).map Log.Emitter.Operation.write)
  { emitter
    log := run.log ++ String.join texts
    reports := run.reports ++ [report] }

def reportText (run : Verification) : String :=
  (Json.array (run.reports.map Report.toValue)).pretty ++ "\n"

def allPassed (run : Verification) : Bool := run.reports.all Report.allPassed

end Verification

/-! ### The commands -/

def usage : String :=
  "usage: eval <FUNCTION> <A> <B> <ARG>\n"
    ++ "       verify --fixture <FIXTURE> [--report <REPORT>] [--log <LOG>]\n"

namespace Host

variable {m : Type → Type} [Monad m] (host : Host m)

/-- Print an evaluation, and tell whether it succeeded. -/
def evaluate (function : String) (a b arg : Float) : ExceptT RunFault m Bool := do
  let value := evaluation (← functionNamed function) a b arg
  host.print (value.pretty ++ "\n")
  return (value.member? "error").isNone

/-- Write an output, if it is asked for. -/
def save (output : Option PathName) (text : String) : ExceptT RunFault m Unit :=
  match output with
  | none => return
  | some path => ExceptT.mk do
    return (← host.write path (Text.utf8Bytes text)).mapError .output

/-- The names in the directory that stands at the path of the fixtures, if one does. -/
def listing (fixture : PathName) : ExceptT RunFault m (Option (List FileName)) := ExceptT.mk do
  return (← host.list fixture).mapError fun fault => .load (.file fixture (.system fault))

/-- Verify files one after the other, up to the first that gives no fixtures. -/
def verifyAll : List PathName → Verification → m (Verification × Option RunFault)
  | [], run => return (run, none)
  | path :: rest, run => do
    let (verified, clock, elapsed) ← host.timed do return verifyFile path (← host.read path)
    match verified with
    | .error fault => return (run, some (.load fault))
    | .ok report =>
      host.say (reportLines path report)
      verifyAll rest (run.record clock elapsed report)

/-- Write the reports on all files, and tell whether all of them passed. -/
def deliver (report : Option PathName) (run : Verification) : ExceptT RunFault m Bool := do
  host.save report run.reportText
  if report.isNone then host.print run.reportText
  return run.allPassed

/-- Verify files, and write their log, also where one of them breaks the run off. -/
def verifyFiles (paths : List PathName) (report log : Option PathName) :
    ExceptT RunFault m Bool := do
  let (run, stopped) ← host.verifyAll paths .start
  host.save log run.log
  match stopped with
  | some fault => throw fault
  | none => host.deliver report run

/-- Verify fixtures, and tell whether all of them passed. The log is made before the first file is
read. -/
def verify (fixture : PathName) (report log : Option PathName) : ExceptT RunFault m Bool := do
  let paths ← selectFixtures fixture (← host.listing fixture)
  host.save log ""
  host.verifyFiles paths report log

/-- The exit status after a command. What made it break off is told at its end. -/
def conclude (wording : Wording) : Except RunFault Bool → m Nat
  | .ok succeeded => return if succeeded then 0 else 1
  | .error fault => do
    host.say ("Error: " ++ fault.describe wording ++ "\n")
    return 1

def perform (wording : Wording) (command : ExceptT RunFault m Bool) : m Nat := do
  host.conclude wording (← command.run)

/-- **The program**: it does what its arguments ask for, and ends with an exit status. -/
def run (wording : Wording) (arguments : List String) : m Nat := do
  match Command.ofArguments arguments with
  | .error .help =>
    host.print usage
    return 0
  | .error .misuse =>
    host.say usage
    return 2
  | .ok (.evaluate function a b arg) => host.perform wording (host.evaluate function a b arg)
  | .ok (.verify fixture report log) => host.perform wording (host.verify fixture report log)

end Host

/-! ### Runs over a tree of files -/

/-- What a run leaves behind. -/
structure Result where
  exit : Nat
  output : String
  errors : String
  tree : FileTree

/-- What a run over a tree leaves behind. -/
def Result.over (tree : FileTree) (run : StateM Scene Nat) : Result :=
  let (exit, scene) := run { tree }
  { exit, output := scene.output, errors := scene.errors, tree := scene.tree }

section Trees

variable (timing : Nat → Clock × Nat) (wording : Wording) (tree : FileTree)

def evaluateTree (function : String) (a b arg : Float) : Result :=
  .over tree ((Host.ofTree timing).perform wording
    ((Host.ofTree timing).evaluate function a b arg))

def verifyTree (fixture : PathName) (report log : Option PathName) : Result :=
  .over tree ((Host.ofTree timing).perform wording
    ((Host.ofTree timing).verify fixture report log))

def runTree (arguments : List String) : Result :=
  .over tree ((Host.ofTree timing).run wording arguments)

end Trees

end IncompleteBeta.CommandLine
