/-
**Reading JSON values.**

* `punctuation`: a character that has to follow;
* `anotherItem`, `anotherKey`, `items`, `members`: the parts of arrays and objects;
* `readValue`: any value, up to a depth of nesting;
* `skipValue`: the text after a value that nobody wants, to any depth;
* `whole`: a reader applied to a whole text, after which only white space may follow;
* `parse`: the value that a text holds.
-/

import IncompleteBeta.Json.Lexeme

namespace IncompleteBeta.Json

/-! ### The parts of arrays and objects -/

def punctuation (wanted : Char) (text : List Char) : Except Fault (List Char) :=
  match skipSpace text with
  | [] => .error .truncated
  | c :: rest => if c = wanted then .ok rest else .error .malformed

def closeArray : List Char → Except Fault (List Char) := punctuation ']'

def closeObject : List Char → Except Fault (List Char) := punctuation '\x7d'

/-- The opening quote of a key; only a string can be a key. -/
def openKey : List Char → Except Fault (List Char) := punctuation '\"'

def colon : List Char → Except Fault (List Char) := punctuation ':'

/-- Whether another item of an array follows; the comma in front of it is read, the closing bracket
is not. -/
def anotherItem (first : Bool) (text : List Char) : Except Fault (Bool × List Char) :=
  match skipSpace text with
  | [] => .error .truncated
  | c :: rest =>
    if c = ']' then .ok (false, c :: rest)
    else if first then .ok (true, c :: rest)
    else if c = ',' then
      match skipSpace rest with
      | [] => .error .truncated
      | d :: rest => if d = ']' then .error .malformed else .ok (true, d :: rest)
    else .error .malformed

/-- Whether another member of an object follows; the comma and the opening quote of the key are
read, the closing brace is not. -/
def anotherKey (first : Bool) (text : List Char) : Except Fault (Bool × List Char) :=
  match skipSpace text with
  | [] => .error .truncated
  | c :: rest =>
    if c = '\x7d' then .ok (false, c :: rest)
    else if first then if c = '\"' then .ok (true, rest) else .error .malformed
    else if c = ',' then
      match skipSpace rest with
      | [] => .error .truncated
      | d :: rest => if d = '\"' then .ok (true, rest) else .error .malformed
    else .error .malformed

/-- The items of an array after its opening bracket, and the closing one. Every item takes at least
one character, so the length of the text bounds their number. -/
def items {α : Type} (item : Reader α) : (fuel : Nat) → (first : Bool) → Reader (List α)
  | 0, _, _ => .error .truncated
  | fuel + 1, first, text => do
    let (more, text) ← anotherItem first text
    if more then
      let (head, text) ← item text
      let (tail, text) ← items item fuel false text
      return (head :: tail, text)
    else
      return ([], ← closeArray text)

/-- The members of an object after its opening brace, and the closing one. -/
def members {κ α : Type} (key : Reader κ) (item : Reader α) :
    (fuel : Nat) → (first : Bool) → Reader (List (κ × α))
  | 0, _, _ => .error .truncated
  | fuel + 1, first, text => do
    let (more, text) ← anotherKey first text
    if more then
      let (name, text) ← key text
      let text ← colon text
      let (head, text) ← item text
      let (tail, text) ← members key item fuel false text
      return ((name, head) :: tail, text)
    else
      return ([], ← closeObject text)

/-! ### Any value -/

def Number.toJson : Number → Json
  | .integer value => .integer value
  | .float value => .float value

/-- How deep values may nest: an array or object at the last level is too deep. -/
def maxDepth : Nat := 128

/-- Any value. The members of objects are sorted by key and the last of equal keys wins. -/
def readValue : (depth : Nat) → Reader Json
  | depth, text =>
    match skipSpace text with
    | [] => .error .truncated
    | c :: rest =>
      if c = 'n' then (literal ['u', 'l', 'l'] rest).map fun rest => (.null, rest)
      else if c = 't' then (literal ['r', 'u', 'e'] rest).map fun rest => (.boolean true, rest)
      else if c = 'f' then
        (literal ['a', 'l', 's', 'e'] rest).map fun rest => (.boolean false, rest)
      else if startsNumber (c :: rest) then
        (readNumber (c :: rest)).map fun (read, rest) => (read.toJson, rest)
      else if c = '\"' then (stringRest rest).map fun (read, rest) => (.string read, rest)
      else if c = '[' then
        match depth with
        | depth + 2 =>
          (items (readValue (depth + 1)) (rest.length + 1) true rest).map fun (read, rest) =>
            (.array read, rest)
        | _ => .error .malformed
      else if c = '\x7b' then
        match depth with
        | depth + 2 =>
          (members stringRest (readValue (depth + 1)) (rest.length + 1) true rest).map
            fun (read, rest) => (sortedObject read, rest)
        | _ => .error .malformed
      else .error .malformed

/-! ### Values that nobody wants -/

/-- A number that nobody wants: where its text ends too early, it is no number. -/
def skipNumber (text : List Char) : Except Fault (List Char) :=
  match numberText (if text.head? = some '-' then text.drop 1 else text) with
  | .ok (_, rest) => .ok rest
  | .error _ => .error .malformed

/-- The text after a value; every level of nesting takes at least one character of it. -/
def skipValue : (fuel : Nat) → List Char → Except Fault (List Char)
  | 0, _ => .error .truncated
  | fuel + 1, text =>
    match skipSpace text with
    | [] => .error .truncated
    | c :: rest =>
      if c = 'n' then literal ['u', 'l', 'l'] rest
      else if c = 't' then literal ['r', 'u', 'e'] rest
      else if c = 'f' then literal ['a', 'l', 's', 'e'] rest
      else if startsNumber (c :: rest) then skipNumber (c :: rest)
      else if c = '\"' then skipString rest
      else if c = '[' then
        (items (fun text => (skipValue fuel text).map ((), ·)) (rest.length + 1) true rest).map
          Prod.snd
      else if c = '\x7b' then
        (members (fun text => (skipString text).map ((), ·))
          (fun text => (skipValue fuel text).map ((), ·)) (rest.length + 1) true rest).map
          Prod.snd
      else .error .malformed

/-! ### Whole texts -/

/-- What a reader makes of a whole text; after it only white space may follow. -/
def whole {α : Type} (reader : Reader α) (text : String) : Except Fault α := do
  let (read, rest) ← reader text.toList
  if (skipSpace rest).isEmpty then return read else .error .malformed

def parse (text : String) : Except Fault Json := whole (readValue maxDepth) text

end IncompleteBeta.Json
