/-
**The smallest pieces of a JSON text.**

* `Reader`: what a reader takes and gives;
* `skipSpace`, `literal`: white space and the three names;
* `readNumber`: a number, kept as an integer where it is written as one and fits 64 bits;
* `stringRest`: a string after its opening quote, by an automaton that sees each character once.
-/

import IncompleteBeta.Json.Fault
import IncompleteBeta.Decimal.Scaling

namespace IncompleteBeta.Json

/-- A reader takes the text that is left, and gives what it read with the text left after it, or the
first fault. -/
abbrev Reader (α : Type) := List Char → Except Fault (α × List Char)

/-! ### White space and names -/

def isSpace (c : Char) : Bool := c = ' ' || c = '\n' || c = '\t' || c = '\r'

/-- The text from its first character that is not white space. -/
def skipSpace (text : List Char) : List Char := text.dropWhile isSpace

def literal : (wanted text : List Char) → Except Fault (List Char)
  | [], text => .ok text
  | _ :: _, [] => .error .truncated
  | c :: wanted, d :: text => if c = d then literal wanted text else .error .malformed

/-! ### Numbers -/

/-- A number as it is written: the digits before and after the point, and the exponent. -/
structure NumberText where
  whole : List Char
  fraction : List Char
  exponent : Option Int
deriving DecidableEq, Repr

/-- The text ended where a digit was needed, or something else stands there. -/
def noDigit {α : Type} (rest : List Char) : Except Fault α :=
  .error (if rest.isEmpty then .truncated else .malformed)

/-- The digits before the point: no zero in front of other digits. -/
def wholeDigits (text : List Char) : Except Fault (List Char × List Char) :=
  let (digits, rest) := digitRun text
  if digits.isEmpty then noDigit rest
  else if digits.head? = some '0' ∧ 1 < digits.length then .error .malformed
  else .ok (digits, rest)

/-- A point and the digits after it, if there is a point. -/
def fractionDigits : Reader (List Char)
  | '.' :: text =>
    let (digits, rest) := digitRun text
    if digits.isEmpty then noDigit rest else .ok (digits, rest)
  | text => .ok ([], text)

def exponentPart : Reader (Option Int)
  | [] => .ok (none, [])
  | c :: text =>
    if c = 'e' || c = 'E' then
      let (negative, text) := takeSign text
      let (digits, rest) := digitRun text
      if digits.isEmpty then noDigit rest
      else
        let magnitude : Int := digitsValue 0 digits
        .ok (some (if negative then -magnitude else magnitude), rest)
    else .ok (none, c :: text)

def numberText (text : List Char) : Except Fault (NumberText × List Char) := do
  let (whole, text) ← wholeDigits text
  let (fraction, text) ← fractionDigits text
  let (exponent, text) ← exponentPart text
  return (⟨whole, fraction, exponent⟩, text)

/-- A number: an integer where it is written as one and fits an unsigned, or below zero a signed,
word of 64 bits, and a double otherwise. -/
inductive Number where
  | integer (value : Int)
  | float (value : Float)
deriving DecidableEq, Repr

/-- The decimal number that a text stands for, without its sign, as far as a word of 64 bits holds
its digits. Before the point every digit from the first that does not fit counts as a zero; after it
the word goes on with the digits that fit, and the others do not count. -/
def NumberText.decimal (written : NumberText) : Decimal :=
  let (word, beyond) := gatherDigits 0 written.whole
  let (word, dropped) := gatherDigits word written.fraction
  ⟨word, beyond.length + dropped.length - written.fraction.length + written.exponent.getD 0⟩

/-- What a number text means, unless that is beyond the finite doubles. Negative zero is a double,
and so is an integer beyond its word. -/
def NumberText.meaning? (negative : Bool) (written : NumberText) : Option Number :=
  let magnitude := digitsValue 0 written.whole
  if written.fraction.isEmpty && written.exponent.isNone &&
      (if negative then decide (0 < magnitude) && decide (magnitude ≤ 1 <<< 63)
        else decide (magnitude < 1 <<< 64)) then
    some (.integer (if negative then -magnitude else magnitude))
  else (written.decimal.scaled? negative).map .float

/-- A number after its sign. A double that would be infinite is a fault. -/
def unsignedNumber (negative : Bool) (text : List Char) : Except Fault (Number × List Char) := do
  let (written, text) ← numberText text
  match written.meaning? negative with
  | some number => return (number, text)
  | none => .error .malformed

def startsNumber : List Char → Bool
  | [] => false
  | c :: _ => c = '-' || c.isDigit

def readNumber : Reader Number
  | '-' :: text => unsignedNumber true text
  | text => unsignedNumber false text

/-! ### Strings -/

/-- Where a reader stands within a string. -/
inductive Place where
  | plain
  | escape
  | unit (lead : Option Nat) (left : Nat) (value : Nat)
  | pairSlash (lead : Nat)
  | pairLetter (lead : Nat)

def hexValue? (c : Char) : Option Nat :=
  if c.isDigit then some (c.toNat - 48)
  else if 'a' ≤ c ∧ c ≤ 'f' then some (c.toNat - 87)
  else if 'A' ≤ c ∧ c ≤ 'F' then some (c.toNat - 55)
  else none

/-- The character that a letter after a backslash stands for. -/
def unescaped? (c : Char) : Option Char :=
  if c = '\"' || c = '\\' || c = '/' then some c
  else if c = 'b' then some '\x08'
  else if c = 'f' then some '\x0c'
  else if c = 'n' then some '\n'
  else if c = 'r' then some '\r'
  else if c = 't' then some '\t'
  else none

def holdsUnit (text : List Char) : Bool :=
  decide (4 ≤ (text.take 4).foldl (fun bytes c => bytes + c.utf8Size) 0)

/-- What follows a whole code unit: the next place and the characters read with it. Half a pair
alone is a fault, unless the string is only skipped. -/
def afterUnit (skipping : Bool) (lead : Option Nat) (value : Nat) : Option (Place × List Char) :=
  if skipping then some (.plain, [])
  else
    match lead with
    | none =>
      if 0xd800 ≤ value ∧ value < 0xdc00 then some (.pairSlash value, [])
      else if 0xdc00 ≤ value ∧ value < 0xe000 then none
      else some (.plain, [Char.ofNat value])
    | some lead =>
      if 0xdc00 ≤ value ∧ value < 0xe000 then
        some (.plain, [Char.ofNat (0x10000 + (lead - 0xd800) * 1024 + (value - 0xdc00))])
      else none

/-- The rest of a string from a place in it; `read` holds the characters so far, the last first. -/
def stringFrom (skipping : Bool) : Place → (read : List Char) → Reader String
  | _, _, [] => .error .truncated
  | .plain, read, c :: text =>
    if c = '\"' then .ok (String.ofList read.reverse, text)
    else if c = '\\' then stringFrom skipping .escape read text
    else if c.toNat < 32 then .error .malformed
    else stringFrom skipping .plain (c :: read) text
  | .escape, read, c :: text =>
    if c = 'u' then
      if holdsUnit text then stringFrom skipping (.unit none 4 0) read text else .error .truncated
    else
      match unescaped? c with
      | some d => stringFrom skipping .plain (d :: read) text
      | none => .error .malformed
  | .unit lead left value, read, c :: text =>
    match hexValue? c with
    | none => .error .malformed
    | some digit =>
      if 1 < left then
        stringFrom skipping (.unit lead (left - 1) (16 * value + digit)) read text
      else
        match afterUnit skipping lead (16 * value + digit) with
        | some (place, characters) => stringFrom skipping place (characters ++ read) text
        | none => .error .malformed
  | .pairSlash lead, read, c :: text =>
    if c = '\\' then stringFrom skipping (.pairLetter lead) read text else .error .malformed
  | .pairLetter lead, read, c :: text =>
    if c = 'u' then
      if holdsUnit text then stringFrom skipping (.unit (some lead) 4 0) read text
      else .error .truncated
    else .error .malformed

def stringRest : Reader String := stringFrom false .plain []

/-- The text after a string whose opening quote has been read, for a string that nobody wants. -/
def skipString (text : List Char) : Except Fault (List Char) :=
  (stringFrom true .plain [] text).map Prod.snd

end IncompleteBeta.Json
