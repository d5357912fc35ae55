/-
**Bytes that need not be text, as they are shown.**

* `chunks`: the texts among the bytes, each with the bad bytes after it;
* `displayed`: these texts, with one replacement character in the place of each bad sequence;
* `quotedBytes`: these texts between double quotes, with each bad byte in hexadecimal.
-/

import IncompleteBeta.Text.Quoted
import IncompleteBeta.Text.Utf8

namespace IncompleteBeta.Text

/-- A text, and the bad bytes after it: one sequence that is no character. -/
structure Chunk where
  text : List Char
  bad : List UInt8
deriving DecidableEq, Repr

/-- The texts among bytes. Where the bytes end within a character, all that is left of it is bad. -/
def chunks (bytes : List UInt8) : List Chunk :=
  match decodeUtf8 bytes with
  | .ok text => [⟨text, []⟩]
  | .error fault =>
    let text := (decodeUtf8 (bytes.take fault.validUpTo)).toOption.getD []
    match inside : bytes.drop fault.validUpTo with
    | [] => [⟨text, []⟩]
    | first :: rest =>
      let more := fault.badLength.elim rest.length (· - 1)
      ⟨text, first :: rest.take more⟩ :: chunks (rest.drop more)
termination_by bytes.length
decreasing_by
  have shorter := congrArg List.length inside
  rw [List.length_drop, List.length_cons] at shorter
  rw [List.length_drop]
  omega

def displayed (bytes : List UInt8) : String :=
  String.ofList ((chunks bytes).flatMap fun chunk =>
    chunk.text ++ if chunk.bad.isEmpty then [] else ['\ufffd'])

def quotedByte (byte : UInt8) : List Char :=
  ['\\', 'x', (Nat.digitChar (byte.toNat / 16)).toUpper, (Nat.digitChar (byte.toNat % 16)).toUpper]

def quotedBytes (bytes : List UInt8) : String :=
  String.ofList ('\"' :: ((chunks bytes).flatMap fun chunk =>
    chunk.text.flatMap quotedChar ++ chunk.bad.flatMap quotedByte) ++ ['\"'])

end IncompleteBeta.Text
