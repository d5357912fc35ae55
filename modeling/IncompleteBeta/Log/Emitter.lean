/-
**Emitters of log entries.**

An emitter numbers the entries that have no trace id of their own. It is a value: writing an entry
gives the text that was written and the emitter after it.

* `Emitter.traceId`: the id of a number, in at least three digits;
* `Emitter.emit`: a new entry with the next id;
* `Emitter.write`: a given entry, with the next id if it has none;
* `Emitter.run`: a sequence of operations.
-/

import IncompleteBeta.Log.Entry

namespace IncompleteBeta.Log

/-- A run of which entries are written. -/
structure Emitter where
  runId : String
  /-- The number of the last id that was given out. -/
  sequence : Nat := 0
deriving DecidableEq, Repr

namespace Emitter

def traceId (runId : String) (number : Nat) : String :=
  runId ++ "::" ++ String.ofList (paddedText 3 number)

def next (emitter : Emitter) : String × Emitter :=
  let number := emitter.sequence + 1
  (traceId emitter.runId number, { emitter with sequence := number })

def emit (emitter : Emitter) (clock : Clock) (level : Level) (event : String) :
    Entry × String × Emitter :=
  let (id, emitter) := emitter.next
  let entry := Entry.new clock id level event
  (entry, entry.line ++ "\n", emitter)

def write (emitter : Emitter) (entry : Entry) : String × Emitter :=
  if entry.traceId.isEmpty then
    let (id, emitter) := emitter.next
    ({ entry with traceId := id }.line ++ "\n", emitter)
  else (entry.line ++ "\n", emitter)

/-- What can be asked of an emitter. -/
inductive Operation where
  | emit (clock : Clock) (level : Level) (event : String)
  | write (entry : Entry)
  /-- Bring what was written to its place; the emitter itself holds nothing back. -/
  | flush

/-- One operation: what it wrote, and the emitter after it. -/
def step (emitter : Emitter) : Operation → String × Emitter
  | .emit clock level event => (emitter.emit clock level event).2
  | .write entry => emitter.write entry
  | .flush => ("", emitter)

/-- A sequence of operations: what each of them wrote, in order, and the emitter at the end. -/
def run (emitter : Emitter) : List Operation → List String × Emitter
  | [] => ([], emitter)
  | operation :: rest =>
    let (text, emitter) := emitter.step operation
    let (texts, emitter) := emitter.run rest
    (text :: texts, emitter)

end Emitter

end IncompleteBeta.Log
