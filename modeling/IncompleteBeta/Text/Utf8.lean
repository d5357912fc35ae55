/-
**Bytes as text.**

* `decodeUtf8`: the characters that bytes encode, or where the first bad sequence begins and how
  many of its bytes are bad;
* `Utf8Fault.message`: that in words.

The decoder reads each byte once. Between the bytes of a character it keeps the ranges in which the
remaining ones must lie; the first of these is narrower than the others where a longer form of a
smaller character, a surrogate or a number above the last character would begin.
-/

namespace IncompleteBeta.Text

/-- The first sequence of bytes that is no character. -/
structure Utf8Fault where
  validUpTo : Nat
  /-- The number of bytes that cannot belong to a character; none where the bytes just end. -/
  badLength : Option Nat
deriving DecidableEq, Repr

def continuation : Nat × Nat := (0x80, 0xbf)

/-- What a first byte announces: the ranges of the bytes after it, and the bits that it gives. -/
def announced? (byte : Nat) : Option (List (Nat × Nat) × Nat) :=
  if byte < 0x80 then some ([], byte)
  else if byte < 0xc2 then none
  else if byte < 0xe0 then some ([continuation], byte - 0xc0)
  else if byte = 0xe0 then some ([(0xa0, 0xbf), continuation], 0)
  else if byte = 0xed then some ([(0x80, 0x9f), continuation], 0xd)
  else if byte < 0xf0 then some ([continuation, continuation], byte - 0xe0)
  else if byte = 0xf0 then some ([(0x90, 0xbf), continuation, continuation], 0)
  else if byte < 0xf4 then some ([continuation, continuation, continuation], byte - 0xf0)
  else if byte = 0xf4 then some ([(0x80, 0x8f), continuation, continuation], 4)
  else none

/-- Decode from byte number `index` on. The character at hand began at `start`, its remaining bytes
lie in the ranges `expected`, and `code` holds its bits so far; `read` holds the characters before
it, the last first. -/
def decodeFrom : (index start : Nat) → (expected : List (Nat × Nat)) → (code : Nat) →
    (read : List Char) → List UInt8 → Except Utf8Fault (List Char)
  | _, _, [], _, read, [] => .ok read.reverse
  | _, start, _ :: _, _, _, [] => .error ⟨start, none⟩
  | index, _, [], _, read, byte :: bytes =>
    match announced? byte.toNat with
    | none => .error ⟨index, some 1⟩
    | some ([], bits) => decodeFrom (index + 1) index [] 0 (Char.ofNat bits :: read) bytes
    | some (expected, bits) => decodeFrom (index + 1) index expected bits read bytes
  | index, start, (least, greatest) :: expected, code, read, byte :: bytes =>
    if least ≤ byte.toNat ∧ byte.toNat ≤ greatest then
      let code := 64 * code + byte.toNat % 64
      if expected.isEmpty then decodeFrom (index + 1) start [] 0 (Char.ofNat code :: read) bytes
      else decodeFrom (index + 1) start expected code read bytes
    else .error ⟨start, some (index - start)⟩

def decodeUtf8 (bytes : List UInt8) : Except Utf8Fault (List Char) := decodeFrom 0 0 [] 0 [] bytes

def Utf8Fault.message (fault : Utf8Fault) : String :=
  match fault.badLength with
  | some length =>
    "invalid utf-8 sequence of " ++ toString length ++ " bytes from index "
      ++ toString fault.validUpTo
  | none => "incomplete utf-8 byte sequence from index " ++ toString fault.validUpTo

def utf8Bytes (text : String) : List UInt8 := text.toUTF8.toList

end IncompleteBeta.Text
