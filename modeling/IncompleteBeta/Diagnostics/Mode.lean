/-
**Where diagnostics go.**

* `Mode`: a line of text, a line of JSON, or nothing;
* `Mode.ofText`: the mode that a setting asks for, text where it asks for none that is known;
* `Mode.ofEnvironment`: the mode of an environment in which the setting may be absent.
-/

import IncompleteBeta.Text.Blank

namespace IncompleteBeta.Diagnostics

/-- How a failure is reported when no hook is installed. -/
inductive Mode where
  | text
  | json
  | off
deriving DecidableEq, Repr

namespace Mode

def jsonNames : List String := ["json", "jsonl", "structured"]

def offNames : List String := ["off", "quiet", "none"]

/-- The mode of a setting. White space around it and the case of ASCII letters do not matter. -/
def ofText (setting : String) : Mode :=
  let name := String.ofList ((Text.trim setting.toList).map Char.toLower)
  if name ∈ jsonNames then .json else if name ∈ offNames then .off else .text

/-- The mode of an environment: text where the setting is absent. -/
def ofEnvironment (environment : Option String) : Mode := (environment.map ofText).getD .text

def name : Mode → String
  | .text => "text"
  | .json => "json"
  | .off => "off"

def writes : Mode → Bool
  | .off => false
  | _ => true

end Mode

end IncompleteBeta.Diagnostics
