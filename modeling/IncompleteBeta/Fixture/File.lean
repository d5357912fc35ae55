/-
**Fixtures in files.**

* `LoadFault`: why a file gives no fixtures, with the path;
* `Wording`: how the faults in texts are told, and where in the text they are;
* `LoadFault.message`, `Complaint.describe`: messages, for users and in full;
* `FixtureSet.load`: the set that a file holds.
-/

import IncompleteBeta.Files.Fault
import IncompleteBeta.Fixture.Basic
import IncompleteBeta.Text.Displayed

namespace IncompleteBeta

/-- Why a file gives no fixtures. -/
inductive LoadFault where
  | file (path : PathName) (fault : FileFault)
  | json (path : PathName) (fault : Json.Fault)
deriving DecidableEq, Repr

/-- A fault in a text as it is told: in words, with the line and the column at which it was found.
There is no line zero; it stands for no place. -/
structure Complaint where
  words : String
  line : Nat
  column : Nat

/-- How the faults in the texts of files are told. It is the reader's, and no result depends on
it. -/
abbrev Wording := PathName → Json.Fault → Complaint

def Complaint.message (complaint : Complaint) : String :=
  if complaint.line = 0 then complaint.words
  else
    complaint.words ++ " at line " ++ toString complaint.line ++ " column "
      ++ toString complaint.column

def Complaint.describe (complaint : Complaint) : String :=
  "Error(" ++ Text.quoted complaint.words ++ ", line: " ++ toString complaint.line ++ ", column: "
    ++ toString complaint.column ++ ")"

def LoadFault.message (wording : Wording) : LoadFault → String
  | .file path fault => "failed reading '" ++ Text.displayed path ++ "': " ++ fault.message
  | .json path fault =>
    "invalid fixture JSON in '" ++ Text.displayed path ++ "': " ++ (wording path fault).message

def FixtureSet.load (path : PathName) (content : Content) : Except LoadFault FixtureSet :=
  match content with
  | .error fault => .error (.file path (.system fault))
  | .ok bytes =>
    match Text.decodeUtf8 bytes with
    | .error _ => .error (.file path .notTextAnywhere)
    | .ok text => (FixtureSet.ofJson (String.ofList text)).mapError (.json path)

end IncompleteBeta
