/-
**Writing JSON.**

* `escaped`: a string between its quotes;
* `Json.compact`: a value on one line without spaces;
* `Json.pretty`: a value on several lines, indented by two spaces a level.

Only the quote, the backslash and the controls below the space are escaped.
-/

import IncompleteBeta.Json.Basic
import IncompleteBeta.Decimal.Layout

namespace IncompleteBeta.Json

/-! ### Strings -/

/-- The lowercase hexadecimal digit of a number below sixteen. -/
def hexDigit (n : Nat) : Char := if n < 10 then Char.ofNat (48 + n) else Char.ofNat (87 + n)

def escapedChar (c : Char) : List Char :=
  if c = '\"' then ['\\', '\"']
  else if c = '\\' then ['\\', '\\']
  else if c = '\x08' then ['\\', 'b']
  else if c = '\x0c' then ['\\', 'f']
  else if c = '\n' then ['\\', 'n']
  else if c = '\r' then ['\\', 'r']
  else if c = '\t' then ['\\', 't']
  else if c.toNat < 32 then ['\\', 'u', '0', '0', hexDigit (c.toNat / 16), hexDigit (c.toNat % 16)]
  else [c]

def stringText (s : String) : List Char := '\"' :: (s.toList.flatMap escapedChar ++ ['\"'])

/-! ### Values without parts -/

def integerText (n : Int) : List Char :=
  (if n < 0 then ['-'] else []) ++ Nat.toDigits 10 n.natAbs

/-- A double by its shortest digits; `null` stands for what is not finite. -/
def floatText (x : Float) : List Char :=
  if x.isFinite then Layout.json.finiteText x else ['n', 'u', 'l', 'l']

def booleanText : Bool → List Char
  | true => ['t', 'r', 'u', 'e']
  | false => ['f', 'a', 'l', 's', 'e']

/-! ### One line -/

mutual

def compactText : Json → List Char
  | .null => ['n', 'u', 'l', 'l']
  | .boolean value => booleanText value
  | .integer value => integerText value
  | .float value => floatText value
  | .string value => stringText value
  | .array items => '[' :: (compactItems items ++ [']'])
  | .object members => '\x7b' :: (compactMembers members ++ ['\x7d'])

def compactItems : List Json → List Char
  | [] => []
  | [item] => compactText item
  | item :: next :: rest => compactText item ++ ',' :: compactItems (next :: rest)

def compactMembers : List (String × Json) → List Char
  | [] => []
  | [(key, value)] => stringText key ++ ':' :: compactText value
  | (key, value) :: next :: rest =>
    stringText key ++ ':' :: (compactText value ++ ',' :: compactMembers (next :: rest))

end

def compact (value : Json) : String := String.ofList value.compactText

/-! ### Several lines -/

def newLine (level : Nat) : List Char := '\n' :: List.replicate (2 * level) ' '

mutual

/-- A value on several lines whose own text is at a level of nesting. -/
def prettyText (level : Nat) : Json → List Char
  | .null => ['n', 'u', 'l', 'l']
  | .boolean value => booleanText value
  | .integer value => integerText value
  | .float value => floatText value
  | .string value => stringText value
  | .array [] => ['[', ']']
  | .array (item :: rest) =>
    '[' :: (newLine (level + 1) ++ prettyItems (level + 1) (item :: rest) ++ newLine level ++ [']'])
  | .object [] => ['\x7b', '\x7d']
  | .object (member :: rest) =>
    '\x7b' :: (newLine (level + 1) ++ prettyMembers (level + 1) (member :: rest) ++ newLine level
      ++ ['\x7d'])

def prettyItems (level : Nat) : List Json → List Char
  | [] => []
  | [item] => prettyText level item
  | item :: next :: rest =>
    prettyText level item ++ ',' :: (newLine level ++ prettyItems level (next :: rest))

def prettyMembers (level : Nat) : List (String × Json) → List Char
  | [] => []
  | [(key, value)] => stringText key ++ ':' :: ' ' :: prettyText level value
  | (key, value) :: next :: rest =>
    stringText key ++ ':' :: ' ' ::
      (prettyText level value ++ ',' :: (newLine level ++ prettyMembers level (next :: rest)))

end

/-- A value on several lines, indented by two spaces a level. -/
def pretty (value : Json) : String := String.ofList (value.prettyText 0)

end IncompleteBeta.Json
