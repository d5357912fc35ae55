/-
**Entries of the run log.**

* `Level`, `Verdict`: how grave an entry is, and how a verification ended;
* `Entry`: one record, with four members that are always there and five that may be absent;
* `Entry.ofJson`, `Entry.line`: entries as lines of JSON.
-/

import IncompleteBeta.Json.Record
import IncompleteBeta.Time.Calendar

namespace IncompleteBeta.Log

/-- How grave an entry is. -/
inductive Level where
  | info
  | warn
  | error
deriving DecidableEq, Repr

/-- How a verification ended. -/
inductive Verdict where
  | pass
  | fail
deriving DecidableEq, Repr

def Level.name : Level → String
  | .info => "info"
  | .warn => "warn"
  | .error => "error"

def Level.named : List (String × Level) :=
  [Level.info, .warn, .error].map fun level => (level.name, level)

def Verdict.name : Verdict → String
  | .pass => "pass"
  | .fail => "fail"

def Verdict.named : List (String × Verdict) :=
  [Verdict.pass, .fail].map fun verdict => (verdict.name, verdict)

/-- One record of a log. -/
structure Entry where
  timestamp : String
  traceId : String
  level : Level
  event : String
  family : Option String := none
  symbol : Option String := none
  verdict : Option Verdict := none
  duration : Option Nat := none
  details : Option Json := none

/-- An entry with its needed members only, at a time of the clock. -/
def Entry.new (clock : Clock) (traceId : String) (level : Level) (event : String) : Entry :=
  { timestamp := clock.timestamp, traceId, level, event }

/-! ### Reading -/

/-- The members of an entry that have been read. -/
structure EntryDraft where
  timestamp : Option String := none
  traceId : Option String := none
  level : Option Level := none
  event : Option String := none
  family : Option (Option String) := none
  symbol : Option (Option String) := none
  verdict : Option (Option Verdict) := none
  duration : Option (Option Nat) := none
  details : Option (Option Json) := none

/-- How an entry is read. The details stand inside the entry, so they may nest one level less than a
text of their own. -/
def Entry.format : Json.RecordFormat EntryDraft Entry where
  title := "struct LogEntry"
  empty := {}
  members :=
    [.of "timestamp" (·.timestamp) (fun draft v => { draft with timestamp := some v })
        Json.readString,
      .of "trace_id" (·.traceId) (fun draft v => { draft with traceId := some v })
        Json.readString,
      .of "level" (·.level) (fun draft v => { draft with level := some v })
        (Json.readName Level.named),
      .of "event" (·.event) (fun draft v => { draft with event := some v }) Json.readString,
      .of "family" (·.family) (fun draft v => { draft with family := some v })
        (Json.readOptional Json.readString),
      .of "symbol" (·.symbol) (fun draft v => { draft with symbol := some v })
        (Json.readOptional Json.readString),
      .of "outcome" (·.verdict) (fun draft v => { draft with verdict := some v })
        (Json.readOptional (Json.readName Verdict.named)),
      .of "duration_ms" (·.duration) (fun draft v => { draft with duration := some v })
        (Json.readOptional (Json.readNatural "u64")),
      .of "details" (·.details) (fun draft v => { draft with details := some v })
        (Json.readOptional (Json.readValue (Json.maxDepth - 1)))]
  complete := fun draft => do
    return { timestamp := ← Json.needed "timestamp" draft.timestamp
             traceId := ← Json.needed "trace_id" draft.traceId
             level := ← Json.needed "level" draft.level
             event := ← Json.needed "event" draft.event
             family := draft.family.join
             symbol := draft.symbol.join
             verdict := draft.verdict.join
             duration := draft.duration.join
             details := draft.details.join }

def Entry.ofJson (line : String) : Except Json.Fault Entry := Json.whole Entry.format.read line

/-! ### Writing -/

def Entry.toValue (entry : Entry) : Json :=
  .object
    ([("timestamp", .string entry.timestamp),
        ("trace_id", .string entry.traceId),
        ("level", .string entry.level.name),
        ("event", .string entry.event)]
      ++ Json.optionalMember "family" (entry.family.map .string)
      ++ Json.optionalMember "symbol" (entry.symbol.map .string)
      ++ Json.optionalMember "outcome" (entry.verdict.map fun verdict => .string verdict.name)
      ++ Json.optionalMember "duration_ms" (entry.duration.map .ofNat)
      ++ Json.optionalMember "details" entry.details)

def Entry.line (entry : Entry) : String := entry.toValue.compact

end IncompleteBeta.Log
