/-
**What can be wrong with a JSON text.**

A text is read from left to right and the first fault wins.

* `Fault`: the text ends too early, is no JSON, or is JSON of another shape than wanted;
* `Mismatch`: in which way the shape differs;
* `Mismatch.message`: the wording of it.
-/

import IncompleteBeta.Json.Printer
import IncompleteBeta.Text.Quoted

namespace IncompleteBeta.Json

/-- A value where another type of value was wanted. -/
inductive Found where
  | null
  | boolean (value : Bool)
  | integer (value : Int)
  | float (value : Float)
  | string (value : String)
  | array
  | object
deriving DecidableEq, Repr

/-- How JSON differs from the wanted shape. -/
inductive Mismatch where
  | missingMember (name : String)
  | duplicateMember (name : String)
  | wrongType (found : Found) (wanted : String)
  | outOfRange (value : Int) (wanted : String)
  | unknownName (name : String) (known : List String)
  | tooShort (length : Nat) (wanted : String)
deriving DecidableEq, Repr

/-- The first thing that is wrong with a text. -/
inductive Fault where
  | truncated
  | malformed
  /-- The text is JSON so far, of another shape than wanted. -/
  | mismatch (mismatch : Mismatch)
deriving DecidableEq, Repr

def Found.describe : Found → String
  | .null => "null"
  | .boolean value => "boolean `" ++ String.ofList (booleanText value) ++ "`"
  | .integer value => "integer `" ++ String.ofList (integerText value) ++ "`"
  | .float value => "floating point `" ++ String.ofList (Layout.json.text value) ++ "`"
  | .string value => "string " ++ Text.quoted value
  | .array => "sequence"
  | .object => "map"

def describeNames : List String → String
  | [] => "there are no variants"
  | [name] => "expected `" ++ name ++ "`"
  | [first, second] => "expected `" ++ first ++ "` or `" ++ second ++ "`"
  | names => "expected one of " ++ ", ".intercalate (names.map fun name => "`" ++ name ++ "`")

def Mismatch.message : Mismatch → String
  | .missingMember name => "missing field `" ++ name ++ "`"
  | .duplicateMember name => "duplicate field `" ++ name ++ "`"
  | .wrongType found wanted => "invalid type: " ++ found.describe ++ ", expected " ++ wanted
  | .outOfRange value wanted =>
    "invalid value: integer `" ++ String.ofList (integerText value) ++ "`, expected " ++ wanted
  | .unknownName name known => "unknown variant `" ++ name ++ "`, " ++ describeNames known
  | .tooShort length wanted =>
    "invalid length " ++ String.ofList (Nat.toDigits 10 length) ++ ", expected " ++ wanted

end IncompleteBeta.Json
