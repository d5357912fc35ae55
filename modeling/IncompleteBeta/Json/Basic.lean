/-
**JSON values.**

* `Json`: the values, with integers kept apart from other numbers;
* `Json.insertMember`: objects whose members are sorted by key, the last of equal keys winning;
* `Json.ofFloat`: a double as a value, where what is not finite has no number.
-/

namespace IncompleteBeta

/-- A JSON value. The members of an object stand in the order in which they are written. -/
inductive Json where
  | null
  | boolean (value : Bool)
  | integer (value : Int)
  | float (value : Float)
  | string (value : String)
  | array (items : List Json)
  | object (members : List (String × Json))

namespace Json

/-- Put a member into members that are sorted by key; an equal key is replaced. -/
def insertMember (key : String) (value : Json) :
    List (String × Json) → List (String × Json)
  | [] => [(key, value)]
  | (other, kept) :: rest =>
    if key < other then (key, value) :: (other, kept) :: rest
    else if other < key then (other, kept) :: insertMember key value rest
    else (key, value) :: rest

/-- The object with these members sorted by key, the last of equal keys winning. -/
def sortedObject (members : List (String × Json)) : Json :=
  .object (members.foldl (fun sorted (key, value) => insertMember key value sorted) [])

/-- A double as a value: `null` stands for what is not finite. -/
def ofFloat (x : Float) : Json := if x.isFinite then .float x else .null

def ofNat (n : Nat) : Json := .integer n

def member? (key : String) : Json → Option Json
  | .object members => members.lookup key
  | _ => none

/-- A member that is left out when there is nothing to write. -/
def optionalMember (key : String) : Option Json → List (String × Json)
  | none => []
  | some value => [(key, value)]

end Json

end IncompleteBeta
