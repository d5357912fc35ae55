/-
**Reading a double from its decimal text.**

* `digitRun`: the digits at the start of a text, as a number, with how many there were;
* `parseFloat?`: an optional sign, then digits with at most one point and an optional exponent, or
  the name of a number that is not finite, in any case of letters.
-/

import IncompleteBeta.Decimal.Basic

namespace IncompleteBeta

def digitValue (c : Char) : Nat := c.toNat - '0'.toNat

/-- The number whose decimal digits these are, read after the digits of `start`. -/
def digitsValue (start : Nat) (digits : List Char) : Nat :=
  digits.foldl (fun value c => 10 * value + digitValue c) start

/-- A run of digits at the start of a text, and the rest. -/
def digitRun (text : List Char) : List Char × List Char := text.span Char.isDigit

def takeSign : List Char → Bool × List Char
  | '-' :: rest => (true, rest)
  | '+' :: rest => (false, rest)
  | text => (false, text)

/-- The exponent after its letter: an optional sign and at least one digit, and nothing else. -/
def wholeExponent? (text : List Char) : Option Int :=
  let (negative, rest) := takeSign text
  let (digits, rest) := digitRun rest
  if digits.isEmpty || !rest.isEmpty then none
  else some (if negative then -(digitsValue 0 digits : Int) else digitsValue 0 digits)

/-- The exponent of a number after its digits: none there, or all of what is left. -/
def trailingExponent? : List Char → Option Int
  | [] => some 0
  | c :: rest => if c = 'e' || c = 'E' then wholeExponent? rest else none

/-- Digits with at most one point among them, then an optional exponent. -/
def unsignedDecimal? (text : List Char) : Option Decimal := do
  let (whole, rest) := digitRun text
  let (fraction, rest) := match rest with
    | '.' :: rest => digitRun rest
    | rest => ([], rest)
  if whole.isEmpty && fraction.isEmpty then none
  let exponent ← trailingExponent? rest
  return ⟨digitsValue (digitsValue 0 whole) fraction, exponent - fraction.length⟩

/-- The double nearest a decimal text, or the number that is not finite of that name. -/
def parseFloat? (text : String) : Option Float :=
  let (negative, rest) := takeSign text.toList
  let name := String.ofList (rest.map Char.toLower)
  if name = "nan" then some Binary64.nan
  else if name = "inf" || name = "infinity" then
    some (if negative then -Binary64.infinity else Binary64.infinity)
  else (unsignedDecimal? rest).map (Decimal.toFloat negative)

end IncompleteBeta
