/-
**The arguments of the command line.**

There are two commands. `eval` takes the name of a function and three numbers; `verify` takes
options that name the fixtures, the report and the log.

* `Command`: what the arguments ask for;
* `Refusal`: arguments that ask for nothing that can be done;
* `Command.ofArguments`: the reading of the arguments.
-/

import IncompleteBeta.Decimal.Reading
import IncompleteBeta.Files.Fault

namespace IncompleteBeta.CommandLine

/-- What the arguments ask for. -/
inductive Command where
  | evaluate (function : String) (a b arg : Float)
  | verify (fixture : PathName) (report log : Option PathName)

/-- Why the arguments name no command. -/
inductive Refusal where
  | help
  | misuse
deriving DecidableEq, Repr

/-! ### Numbers after a minus sign -/

/-- Whether the rest of a number after its first digit is digits with at most one point and then at
most one exponent without a sign. -/
def numberTail : (point exponent : Bool) → List Char → Bool
  | _, _, [] => true
  | point, exponent, c :: rest =>
    if c.isDigit then numberTail point exponent rest
    else if c = '.' then !point && !exponent && numberTail true exponent rest
    else if c = 'e' || c = 'E' then !exponent && !rest.isEmpty && numberTail point true rest
    else false

/-- Whether a text that begins with a minus sign is taken for a number and not for an option. -/
def looksNegative : List Char → Bool
  | '-' :: c :: rest => c.isDigit && numberTail false false rest
  | _ => false

/-! ### Positional arguments -/

/-- Whether a text is taken for an option. A minus sign alone is not. -/
def looksOption : List Char → Bool
  | '-' :: _ :: _ => true
  | _ => false

def refuseOption {α : Type} (option : String) : Except Refusal α :=
  .error (if option = "--help" || option.startsWith "-h" then .help else .misuse)

/-- Whether an argument can stand after so many positional ones: a name, then three numbers. -/
def fitsAfter (count : Nat) (argument : String) : Bool :=
  count = 0 || (decide (count ≤ 3) && (parseFloat? argument).isSome)

/-- Whether an argument after so many positional ones is taken for an option. The numbers may be
negative. -/
def isOptionAfter (count : Nat) (argument : String) : Bool :=
  looksOption argument.toList
    && !(looksNegative argument.toList && decide (1 ≤ count) && decide (count ≤ 3))

/-- Positional arguments, the first that is wrong being refused. After two minus signs nothing is
taken for an option. -/
def positionals : (taken : List String) → List String → Except Refusal (List String)
  | taken, [] => .ok taken.reverse
  | taken, argument :: rest =>
    if argument = "--" then .ok (taken.reverse ++ rest)
    else if isOptionAfter taken.length argument then refuseOption argument
    else if fitsAfter taken.length argument then positionals (argument :: taken) rest
    else .error .misuse

def evaluateArguments (arguments : List String) : Except Refusal Command := do
  match ← positionals [] arguments with
  | [function, a, b, arg] =>
    match parseFloat? a, parseFloat? b, parseFloat? arg with
    | some a, some b, some arg => return .evaluate function a b arg
    | _, _, _ => .error .misuse
  | _ => .error .misuse

/-! ### Options -/

/-- The options of `verify` that have been given. -/
structure VerifyOptions where
  fixture : Option String := none
  report : Option String := none
  log : Option String := none
deriving DecidableEq, Repr

/-- Give an option its value: once, and not an empty one. -/
def VerifyOptions.set (options : VerifyOptions) (name value : String) :
    Except Refusal VerifyOptions :=
  if value.isEmpty then .error .misuse
  else
    match name, options with
    | "fixture", { fixture := none, .. } => .ok { options with fixture := some value }
    | "report", { report := none, .. } => .ok { options with report := some value }
    | "log", { log := none, .. } => .ok { options with log := some value }
    | _, _ => .error .misuse

/-- The name of an option, with the value that is attached to it. -/
def splitOption (text : List Char) : String × Option String :=
  let (name, rest) := text.span (· ≠ '=')
  (String.ofList name, match rest with
    | _ :: value => some (String.ofList value)
    | [] => none)

/-- The options of `verify`, each with its value attached or in the next argument. -/
def verifyOptions : VerifyOptions → List String → Except Refusal VerifyOptions
  | options, [] => .ok options
  | options, ["--"] => .ok options
  | options, argument :: rest =>
    match argument.toList with
    | '-' :: '-' :: text =>
      match splitOption text, rest with
      | ("help", none), _ => .error .help
      | (name, some value), rest => do verifyOptions (← options.set name value) rest
      | (name, none), value :: rest =>
        if looksOption value.toList then .error .misuse
        else do verifyOptions (← options.set name value) rest
      | (_, none), [] => .error .misuse
    | _ => refuseOption argument

def verifyArguments (arguments : List String) : Except Refusal Command := do
  let options ← verifyOptions {} arguments
  match options.fixture with
  | some fixture =>
    return .verify (Text.utf8Bytes fixture) (options.report.map Text.utf8Bytes)
      (options.log.map Text.utf8Bytes)
  | none => .error .misuse

/-- Whether help can be had on what these arguments name: nothing, or one command. -/
def hasHelp : List String → Bool
  | [] => true
  | [command] => command = "eval" || command = "verify" || command = "help"
  | _ => false

def Command.ofArguments : List String → Except Refusal Command
  | "eval" :: arguments => evaluateArguments arguments
  | "verify" :: arguments => verifyArguments arguments
  | "help" :: topic => .error (if hasHelp topic then .help else .misuse)
  | argument :: _ => refuseOption argument
  | [] => .error .misuse

end IncompleteBeta.CommandLine
