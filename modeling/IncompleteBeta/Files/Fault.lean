/-
**Why a file gives no text.**

* `SystemFault`: why the system refuses a file, with its number, class and wording;
* `FileFault`: that, or bytes that are no text;
* `Content`: the bytes of a file, or why they cannot be had;
* `FileName`, `PathName`: what files are called by, bytes that need not be text either.
-/

import IncompleteBeta.Text.Utf8

namespace IncompleteBeta

/-- Why the system refuses a file. -/
inductive SystemFault where
  | notFound
  | notDirectory
  | isDirectory
  | denied
  | nameTooLong
  /-- The path holds the character that ends a path, so the system is not even asked. -/
  | nulInPath
deriving DecidableEq, Repr

/-- The number of a system fault, where the system was asked. -/
def SystemFault.code? : SystemFault → Option Nat
  | .notFound => some 2
  | .denied => some 13
  | .notDirectory => some 20
  | .isDirectory => some 21
  | .nameTooLong => some 36
  | .nulInPath => none

def SystemFault.kind : SystemFault → String
  | .notFound => "NotFound"
  | .denied => "PermissionDenied"
  | .notDirectory => "NotADirectory"
  | .isDirectory => "IsADirectory"
  | .nameTooLong => "InvalidFilename"
  | .nulInPath => "InvalidInput"

def SystemFault.describe : SystemFault → String
  | .notFound => "No such file or directory"
  | .denied => "Permission denied"
  | .notDirectory => "Not a directory"
  | .isDirectory => "Is a directory"
  | .nameTooLong => "File name too long"
  | .nulInPath => "file name contained an unexpected NUL byte"

def SystemFault.message (fault : SystemFault) : String :=
  match fault.code? with
  | some code => fault.describe ++ " (os error " ++ toString code ++ ")"
  | none => fault.describe

/-- Why a file gives no text. -/
inductive FileFault where
  | system (fault : SystemFault)
  | notText (fault : Text.Utf8Fault)
  | notTextAnywhere
deriving DecidableEq, Repr

def FileFault.message : FileFault → String
  | .system fault => fault.message
  | .notText fault => fault.message
  | .notTextAnywhere => "stream did not contain valid UTF-8"

abbrev Content := Except SystemFault (List UInt8)

/-- The name of an entry in a directory. -/
abbrev FileName := List UInt8

/-- Names with slashes between them, as the system is asked for a file. -/
abbrev PathName := List UInt8

end IncompleteBeta
