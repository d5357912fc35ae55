/-
**Log entries read back from their own lines.**

* `Entry.Held`: the entries that can be held; their details nest at most 126 levels deep, because
  the entry itself is a level and the last level is refused;
* `Entry.reread`: an entry with every double of its details as it is read from its own text;
* **`ofJson_line`**: the line of a held entry is read as that;
* **`ofJson_line_iff`**: and as the entry itself, but for details of `null`, exactly if each double
  in its details is read as it is written.
-/

import IncompleteBeta.Log.Entry
import IncompleteBeta.Proofs.Json.OneLine
import IncompleteBeta.Proofs.Json.Rereading
import IncompleteBeta.Proofs.Json.Values

namespace IncompleteBeta.Log

open Json

/-- **The entries that can be held.** -/
structure Entry.Held (entry : Entry) : Prop where
  duration : ∀ n ∈ entry.duration, n < 2 ^ 64
  details : ∀ value ∈ entry.details, Json.Held 126 value

/-- The doubles of an entry, all of which are in its details. -/
def Entry.numbers (entry : Entry) : List Float := entry.details.toList.flatMap Json.numbers

/-- The entry without details of `null`. -/
def Entry.withoutNull (entry : Entry) : Entry :=
  { entry with
    details := match entry.details with
      | some .null => none
      | details => details }

/-- Details as they are read, where `null` stands for none. -/
def rereadDetails : Json → Except Fault (Option Json)
  | .null => .ok none
  | value => (rereadValue value).map some

/-- An entry with every double as it is read from its own text, or the first fault in one. -/
def Entry.reread (entry : Entry) : Except Fault Entry := do
  return { entry with details := (← entry.details.mapM rereadDetails).join }

theorem Entry.Held.isFinite {entry : Entry} (held : entry.Held) :
    ∀ x ∈ entry.numbers, x.isFinite = true := by
  rw [Entry.numbers, List.forall_mem_flatMap]
  exact fun value inside => (held.details value (Option.mem_toList.mp inside)).isFinite

/-! ### Reading what was written -/

section Reading

variable {spacing : Spacing}

theorem resolve_level (level : Level) : resolve Level.named level.name = .ok level := by
  cases level <;> rfl

theorem resolve_verdict (verdict : Verdict) : resolve Verdict.named verdict.name = .ok verdict := by
  cases verdict <;> rfl

theorem reads_details {value : Json} (held : Json.Held 126 value) (level : Nat) :
    Reads (readOptional (readValue (maxDepth - 1))) (spacedText spacing level value)
      (rereadDetails value) := by
  have reads : Reads (readValue (maxDepth - 1)) (spacedText spacing level value)
      (rereadValue value) := reads_value held level
  cases held with
  | null => exact reads_none _
  | float finite => exact reads_some (writesNull_float finite) reads
  | boolean | integer | string | array | object => exact reads_some rfl reads

theorem mapM_some_bind {ε α β γ : Type} (step : α → Except ε β) (a : α)
    (after : Option β → Except ε γ) :
    ((some a).mapM step >>= after) = step a >>= fun found => after (some found) := by
  rw [Option.mapM_some]
  cases step a <;> rfl

/-- What the members of an entry come to. -/
def Entry.gathered (entry : Entry) : Except Fault EntryDraft :=
  Except.ok entry.timestamp >>= fun timestamp => Except.ok entry.traceId >>= fun traceId =>
    Except.ok entry.level >>= fun level => Except.ok entry.event >>= fun event =>
    entry.family.mapM Except.ok >>= fun family => entry.symbol.mapM Except.ok >>= fun symbol =>
    entry.verdict.mapM Except.ok >>= fun verdict =>
    entry.duration.mapM Except.ok >>= fun duration =>
    entry.details.mapM rereadDetails >>= fun details =>
    .ok ⟨some timestamp, some traceId, some level, some event, family.map some, symbol.map some,
      verdict.map some, duration.map some, details⟩

theorem gathered_finish (entry : Entry) :
    entry.gathered >>= Entry.format.finish = entry.reread := by
  obtain ⟨timestamp, traceId, level, event, family, symbol, verdict, duration, details⟩ := entry
  simp only [Entry.gathered, Entry.reread, bind_assoc]
  cases family <;> cases symbol <;> cases verdict <;> cases duration <;>
    exact bind_congr fun details => rfl

/-- The members of an entry, one after the other. -/
theorem toValue_eq (entry : Entry) : entry.toValue =
    .object (("timestamp", .string entry.timestamp) :: ("trace_id", .string entry.traceId)
      :: ("level", .string entry.level.name) :: ("event", .string entry.event)
      :: (optionalMember "family" (entry.family.map .string)
        ++ (optionalMember "symbol" (entry.symbol.map .string)
        ++ (optionalMember "outcome" (entry.verdict.map fun verdict => .string verdict.name)
        ++ (optionalMember "duration_ms" (entry.duration.map .ofNat)
        ++ optionalMember "details" entry.details))))) := by
  simp only [Entry.toValue, List.append_assoc, List.cons_append, List.nil_append]

/-- **An entry is read with every double of its details as it is read from its own text.** -/
theorem reads_entry (level : Nat) {entry : Entry} (held : entry.Held) :
    Reads Entry.format.read (spacedText spacing level entry.toValue) entry.reread := by
  rw [toValue_eq, ← gathered_finish]
  refine reads_record ?_
  obtain ⟨timestamp, traceId, gravity, event, family, symbol, verdict, duration, details⟩ := entry
  refine .of (⟨some ·, none, none, none, none, none, none, none, none⟩) rfl rfl rfl
    (reads_string timestamp) fun timestamp => ?_
  refine .of (⟨some timestamp, some ·, none, none, none, none, none, none, none⟩) rfl rfl rfl
    (reads_string traceId) fun traceId => ?_
  refine .of (⟨some timestamp, some traceId, some ·, none, none, none, none, none, none⟩)
    rfl rfl rfl (resolve_level gravity ▸ reads_name _ _) fun gravity => ?_
  refine .of (⟨some timestamp, some traceId, some gravity, some ·, none, none, none, none, none⟩)
    rfl rfl rfl (reads_string event) fun event => ?_
  refine .optional
    (⟨some timestamp, some traceId, some gravity, some event, ·, none, none, none, none⟩)
    rfl rfl rfl rfl (fun _ _ => rfl) (fun _ _ => reads_string _) fun family => ?_
  refine .optional
    (⟨some timestamp, some traceId, some gravity, some event, family.map some, ·, none, none, none⟩)
    rfl rfl rfl rfl (fun _ _ => rfl) (fun _ _ => reads_string _) fun symbol => ?_
  refine .optional
    (⟨some timestamp, some traceId, some gravity, some event, family.map some, symbol.map some, ·,
      none, none⟩)
    rfl rfl rfl rfl (fun _ _ => rfl)
    (fun verdict _ => resolve_verdict verdict ▸ reads_name _ _) fun verdict => ?_
  refine .optional
    (⟨some timestamp, some traceId, some gravity, some event, family.map some, symbol.map some,
      verdict.map some, ·, none⟩)
    rfl rfl rfl rfl (fun _ _ => rfl) (fun n some => reads_natural "u64" (held.duration n some))
    fun duration => ?_
  cases details with
  | none => exact .nil _
  | some value =>
    rw [mapM_some_bind]
    exact .of
      (⟨some timestamp, some traceId, some gravity, some event, family.map some, symbol.map some,
        verdict.map some, duration.map some, some ·⟩)
      rfl rfl rfl (reads_details (held.details value rfl) _) fun details => .nil _

/-- **The line of an entry is read with every double of its details as it is read from its own
text.** -/
theorem ofJson_line {entry : Entry} (held : entry.Held) :
    Entry.ofJson entry.line = entry.reread := by
  rw [Entry.ofJson, Entry.line, Json.compact, compactText_eq 0]
  exact (reads_entry 0 held).whole

end Reading

/-! ### Entries that are read as themselves -/

theorem rereadDetails_of_ne_null {value : Json} (present : value ≠ .null) :
    rereadDetails value = (rereadValue value).map some := by
  cases value with
  | null => exact absurd rfl present
  | boolean | integer | float | string | array | object => rfl

theorem withoutNull_of_ne_null {entry : Entry} (present : entry.details ≠ some .null) :
    entry.withoutNull = entry := by
  obtain ⟨timestamp, traceId, level, event, family, symbol, verdict, duration, details⟩ := entry
  rw [Entry.withoutNull]
  split
  next absent => exact absurd absent present
  next => rfl

theorem reread_eq_ok (entry : Entry) :
    entry.reread = .ok entry.withoutNull ↔ ∀ x ∈ entry.numbers, Json.reread x = .ok x := by
  obtain ⟨timestamp, traceId, level, event, family, symbol, verdict, duration, details⟩ := entry
  cases details with
  | none => exact iff_of_true rfl (List.forall_mem_nil _)
  | some value =>
    by_cases absent : value = .null
    · subst absent
      exact iff_of_true rfl (List.forall_mem_nil _)
    · rw [withoutNull_of_ne_null fun null => absent (Option.some.inj null), Entry.numbers,
        Option.toList_some, List.flatMap_singleton, ← rereadValue_eq_ok, Entry.reread,
        Option.mapM_some, rereadDetails_of_ne_null absent]
      cases rereadValue value with
      | error fault => exact iff_of_false nofun nofun
      | ok found =>
        constructor
        · intro same
          cases same
          rfl
        · intro same
          cases same
          rfl

/-- **The line of an entry is read as the entry**, but for details of `null`, **exactly if each
double in its details is read as it is written.** -/
theorem ofJson_line_iff {entry : Entry} (held : entry.Held) :
    Entry.ofJson entry.line = .ok entry.withoutNull ↔ ∀ x ∈ entry.numbers, ReadsBack x := by
  rw [ofJson_line held, reread_eq_ok]
  exact forall₂_congr fun x inside => (readsBack_iff (held.isFinite x inside)).symm

end IncompleteBeta.Log
