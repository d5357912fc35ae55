/-
**The program.**

The program asks a host for all that it looks at and writes. This module makes the system it is
started on such a host. Paths that are no text are out of reach here, as they are to the library
underneath.
-/

import IncompleteBeta.CommandLine.Run
import Std.Time.DateTime.Timestamp

namespace IncompleteBeta.CommandLine

/-! ### Refusals -/

/-- Whether the number of a refusal, which may come with either sign, is that of a fault. -/
def isNumberOf (fault : SystemFault) (code : UInt32) : Bool :=
  fault.code? = some code.toInt32.toInt.natAbs

/-- The fault behind a refusal of the system; a refusal of another kind goes on to the caller. -/
def faultOf (refusal : IO.Error) : IO SystemFault :=
  match refusal with
  | .noFileOrDirectory .. => return .notFound
  | .permissionDenied .. => return .denied
  | .inappropriateType _ code _ =>
    return if isNumberOf .notDirectory code then .notDirectory else .isDirectory
  | .invalidArgument _ code _ =>
    if isNumberOf .nameTooLong code then return .nameTooLong else throw refusal
  | _ => throw refusal

/-- What is done, or the fault behind its refusal. -/
def attempt {α : Type} (act : IO α) : IO (Except SystemFault α) := do
  try return .ok (← act)
  catch refusal => return .error (← faultOf refusal)

/-! ### The system -/

def readClock : IO Clock := do
  let now ← Std.Time.Timestamp.now
  return { seconds := now.val.second.val, nanoseconds := now.val.nano.val.toNat }

/-- The system the program is started on. -/
def Host.ofIO : Host IO where
  list path := attempt do
    let place := System.mkFilePath [Text.displayed path]
    if ← place.isDir then
      return some ((← place.readDir).toList.map fun entry => Text.utf8Bytes entry.fileName)
    else return none
  read path := attempt do
    return (← IO.FS.readBinFile (System.mkFilePath [Text.displayed path])).toList
  write path bytes := attempt do
    IO.FS.writeBinFile (System.mkFilePath [Text.displayed path]) ⟨bytes.toArray⟩
  print text := IO.print text
  say text := IO.eprint text
  timed act := do
    let before ← IO.monoMsNow
    let done ← act
    let elapsed := (← IO.monoMsNow) - before
    return (done, ← readClock, elapsed)

/-- The words of the program for faults in texts, without places. -/
def plainWording : Wording := fun _ fault =>
  let words := match fault with
    | .truncated => "the text ends too early"
    | .malformed => "the text is no JSON"
    | .mismatch mismatch => mismatch.message
  ⟨words, 0, 0⟩

end IncompleteBeta.CommandLine

def main (arguments : List String) : IO UInt32 := do
  let host := IncompleteBeta.CommandLine.Host.ofIO
  return (← host.run IncompleteBeta.CommandLine.plainWording arguments).toUInt32
