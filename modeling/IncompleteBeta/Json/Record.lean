/-
**Reading values of a wanted shape.**

* `mismatched`: the fault of finding a value of another type;
* `readString`, `readFloat`, `readNatural`, `readBoolean`, `readOptional`, `readList`, `readName`:
  readers of single values;
* `Member`, `RecordFormat`: the members of a record, and how they are gathered in a draft;
* `RecordFormat.read`: a record, as an object with its members in any order and others between them,
  or as an array in the order of declaration.
-/

import IncompleteBeta.Json.Reader

namespace IncompleteBeta.Json

/-! ### Single values -/

/-- The fault of a value where another type was wanted. A value without parts is read first, so that
a fault in it wins. -/
def mismatched {α : Type} (wanted : String) : Reader α := fun text =>
  let found (kind : Found) : Except Fault (α × List Char) :=
    .error (.mismatch (.wrongType kind wanted))
  match skipSpace text with
  | [] => .error .truncated
  | c :: rest =>
    if c = 'n' then literal ['u', 'l', 'l'] rest >>= fun _ => found .null
    else if c = 't' then literal ['r', 'u', 'e'] rest >>= fun _ => found (.boolean true)
    else if c = 'f' then literal ['a', 'l', 's', 'e'] rest >>= fun _ => found (.boolean false)
    else if startsNumber (c :: rest) then
      readNumber (c :: rest) >>= fun
        | (.integer value, _) => found (.integer value)
        | (.float value, _) => found (.float value)
    else if c = '\"' then stringRest rest >>= fun (read, _) => found (.string read)
    else if c = '[' then found .array
    else if c = '\x7b' then found .object
    else .error .malformed

def readString : Reader String := fun text =>
  match skipSpace text with
  | '\"' :: rest => stringRest rest
  | text => mismatched "a string" text

def readFloat : Reader Float := fun text =>
  let text := skipSpace text
  if startsNumber text then
    (readNumber text).map fun
      | (.integer value, rest) =>
        ((Decimal.mk value.natAbs 0).toFloat (decide (value < 0)), rest)
      | (.float value, rest) => (value, rest)
  else mismatched "f64" text

/-- A natural number of 64 bits, under the name that messages use. -/
def readNatural (wanted : String) : Reader Nat := fun text =>
  let text := skipSpace text
  if startsNumber text then do
    match ← readNumber text with
    | (.integer value, rest) =>
      if 0 ≤ value then return (value.toNat, rest)
      else .error (.mismatch (.outOfRange value wanted))
    | (.float value, _) => .error (.mismatch (.wrongType (.float value) wanted))
  else mismatched wanted text

def readBoolean : Reader Bool := fun text =>
  match skipSpace text with
  | 't' :: rest => (literal ['r', 'u', 'e'] rest).map (true, ·)
  | 'f' :: rest => (literal ['a', 'l', 's', 'e'] rest).map (false, ·)
  | text => mismatched "a boolean" text

/-- The value `null`. -/
def readNull : Reader Unit := fun text =>
  match skipSpace text with
  | 'n' :: rest => (literal ['u', 'l', 'l'] rest).map ((), ·)
  | text => mismatched "unit" text

/-- A value, or `null` for none. -/
def readOptional {α : Type} (item : Reader α) : Reader (Option α) := fun text =>
  match skipSpace text with
  | 'n' :: rest => (literal ['u', 'l', 'l'] rest).map (none, ·)
  | text => (item text).map fun (read, rest) => (some read, rest)

def readList {α : Type} (item : Reader α) : Reader (List α) := fun text =>
  match skipSpace text with
  | '[' :: rest => items item (rest.length + 1) true rest
  | text => mismatched "a sequence" text

def resolve {α : Type} (known : List (String × α)) (name : String) : Except Fault α :=
  match known.lookup name with
  | some meant => .ok meant
  | none => .error (.mismatch (.unknownName name (known.map Prod.fst)))

/-- One of the known names: as a string, or as the only key of an object that holds `null`. A key
that is no string is not of another type than wanted: a text with such a key is no JSON. -/
def readName {α : Type} (known : List (String × α)) : Reader α := fun text =>
  match skipSpace text with
  | [] => .error .truncated
  | '\"' :: rest => do
    let (name, rest) ← stringRest rest
    return (← resolve known name, rest)
  | '\x7b' :: rest => do
    let (name, rest) ← stringRest (← openKey rest)
    let meant ← resolve known name
    let rest ← colon rest
    let ((), rest) ← readNull rest
    return (meant, ← closeObject rest)
  | _ => .error .malformed

/-! ### Records -/

/-- A member of a record, whose values are gathered in a draft. -/
structure Member (δ : Type) where
  name : String
  present : δ → Bool
  read : δ → Reader δ
  /-- Whether an array in place of the record may end before the member. -/
  omissible : Bool := false

def Member.of {δ α : Type} (name : String) (held : δ → Option α) (put : δ → α → δ)
    (reader : Reader α) : Member δ where
  name
  present := fun draft => (held draft).isSome
  read := fun draft text => (reader text).map fun (read, rest) => (put draft read, rest)

/-- The same member, before which an array in place of the record may end. -/
def Member.trailing {δ : Type} (member : Member δ) : Member δ := { member with omissible := true }

/-- A member that a record needs, or the fault of lacking it. -/
def needed {α : Type} (name : String) : Option α → Except Mismatch α
  | some value => .ok value
  | none => .error (.missingMember name)

/-- How a record is read. -/
structure RecordFormat (δ α : Type) where
  title : String
  members : List (Member δ)
  empty : δ
  /-- The record of a draft, or the first member that it lacks. -/
  complete : δ → Except Mismatch α

namespace RecordFormat

variable {δ α : Type}

/-- The members of an object in any order; those with other keys are skipped. -/
def objectMembers (format : RecordFormat δ α) :
    (fuel : Nat) → (first : Bool) → δ → Reader δ
  | 0, _, _, _ => .error .truncated
  | fuel + 1, first, draft, text => do
    let (more, text) ← anotherKey first text
    if more then
      let (key, text) ← stringRest text
      match format.members.find? fun member => member.name == key with
      | none =>
        let text ← colon text
        let text ← skipValue (text.length + 1) text
        objectMembers format fuel false draft text
      | some member =>
        if member.present draft then .error (.mismatch (.duplicateMember key))
        else
          let text ← colon text
          let (draft, text) ← member.read draft text
          objectMembers format fuel false draft text
    else return (draft, text)

/-- The members of an array in the order of declaration, from the member number `index` on. -/
def arrayMembers (wanted : String) :
    List (Member δ) → (index : Nat) → (first : Bool) → δ → Reader δ
  | [], _, _, draft, text => .ok (draft, text)
  | member :: rest, index, first, draft, text => do
    let (more, text) ← anotherItem first text
    if more then
      let (draft, text) ← member.read draft text
      arrayMembers wanted rest (index + 1) false draft text
    else if member.omissible then arrayMembers wanted rest (index + 1) first draft text
    else .error (.mismatch (.tooShort index wanted))

/-- What messages call the record in the form of an array. -/
def arrayTitle (format : RecordFormat δ α) : String :=
  format.title ++ " with " ++ String.ofList (Nat.toDigits 10 format.members.length) ++ " elements"

def finish (format : RecordFormat δ α) (draft : δ) : Except Fault α :=
  (format.complete draft).mapError .mismatch

def read (format : RecordFormat δ α) : Reader α := fun text =>
  match skipSpace text with
  | '\x7b' :: rest => do
    let (draft, rest) ← objectMembers format (rest.length + 1) true format.empty rest
    let record ← format.finish draft
    return (record, ← closeObject rest)
  | '[' :: rest => do
    let (draft, rest) ← arrayMembers format.arrayTitle format.members 0 true format.empty rest
    let record ← format.finish draft
    return (record, ← closeArray rest)
  | text => mismatched format.title text

end RecordFormat

end IncompleteBeta.Json
