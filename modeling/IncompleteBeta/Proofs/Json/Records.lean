/-
**What readers make of written records.**

* `objectRest`: the text of an object after its opening brace;
* `Gathers`: what the members of a record come to in a draft, one after the other;
* `Gathers.of`, `Gathers.optional`: members that are read by a reader of their own;
* **`reads_record`**: a record is read as its members come to.
-/

import IncompleteBeta.Proofs.Json.Reading

namespace IncompleteBeta.Json

/-! ### Texts of objects -/

/-- The text of an object after its opening brace. -/
def objectRest (spacing : Spacing) (level : Nat) : List (String × Json) → List Char
  | [] => ['\x7d']
  | (key, value) :: rest =>
    spacing.gap (level + 1) ++ (stringText key ++ ':' :: (spacing.afterColon
      ++ (spacedText spacing (level + 1) value
        ++ (moreMembers spacing (level + 1) rest ++ (spacing.gap level ++ ['\x7d'])))))

section Objects

variable (spacing : Spacing) (level : Nat)

theorem spacedText_object (members : List (String × Json)) :
    spacedText spacing level (.object members) = '\x7b' :: objectRest spacing level members := by
  rcases members with _ | ⟨⟨key, value⟩, rest⟩
  · simp only [spacedText, objectRest]
  · simp only [spacedText, objectRest, List.append_assoc, List.cons_append]

/-- What follows a member ends it. -/
theorem numberEnd_moreMembers (outer : Nat) (members : List (String × Json)) (rest : List Char) :
    NumberEnd (moreMembers spacing level members ++ (spacing.gap outer ++ '\x7d' :: rest)) := by
  rcases members with _ | ⟨⟨key, value⟩, members⟩
  · rw [moreMembers, List.nil_append]
    exact numberEnd_blank (spacing.blank_gap outer)
      (numberEnd_cons (by decide) (by decide) (by decide) (by decide))
  · rw [moreMembers]
    exact numberEnd_cons (by decide) (by decide) (by decide) (by decide)

/-- The text of an object has a character for each of its members. -/
theorem length_le_objectRest (members : List (String × Json)) :
    members.length ≤ (objectRest spacing level members).length := by
  have more : ∀ rest : List (String × Json),
      rest.length ≤ (moreMembers spacing (level + 1) rest).length := by
    intro rest
    induction rest with
    | nil => exact Nat.zero_le _
    | cons member rest ih =>
      simp only [moreMembers, List.length_cons, List.length_append]
      omega
  rcases members with _ | ⟨⟨key, value⟩, rest⟩
  · exact Nat.zero_le _
  · have := more rest
    simp only [objectRest, List.length_cons, List.length_append]
    omega

/-- A key is read with its colon, and the white space after that does not matter. -/
theorem key_read (key : String) (rest : List Char) :
    ∃ text, stringText key ++ ':' :: rest = '\"' :: text ∧
      stringRest text = .ok (key, ':' :: rest) := stringRest_stringText key (':' :: rest)

theorem colon_cons (rest : List Char) : colon (':' :: rest) = .ok rest :=
  punctuation_blank rest blank_nil rfl

theorem anotherKey_first {text rest : List Char} (key : String)
    (written : stringText key ++ ':' :: rest = '\"' :: text) :
    anotherKey true (spacing.gap level ++ (stringText key ++ ':' :: rest)) = .ok (true, text) := by
  rw [written, anotherKey, skipSpace_token (spacing.blank_gap level) (by decide)]
  rfl

theorem anotherKey_comma {text rest : List Char} (key : String)
    (written : stringText key ++ ':' :: rest = '\"' :: text) :
    anotherKey false (',' :: (spacing.gap level ++ (stringText key ++ ':' :: rest))) =
      .ok (true, text) := by
  rw [written, anotherKey, skipSpace_cons (by decide)]
  simp [skipSpace_token (spacing.blank_gap level) (show isSpace '\"' = false by rfl)]

theorem anotherKey_close (first : Bool) {before : List Char} (blank : Blank before)
    (rest : List Char) :
    anotherKey first (before ++ '\x7d' :: rest) = .ok (false, '\x7d' :: rest) := by
  rw [anotherKey, skipSpace_token blank (by decide)]
  rfl

end Objects

/-! ### Members of records -/

section Members

variable {α β δ : Type} {format : RecordFormat δ α} {spacing : Spacing} {level : Nat}

/-- **What the members of a record come to**, one after the other from a draft on. -/
inductive Gathers (format : RecordFormat δ α) (spacing : Spacing) (level : Nat) :
    δ → List (String × Json) → Except Fault δ → Prop where
  | nil (draft : δ) : Gathers format spacing level draft [] (.ok draft)
  /-- A known member that is not there yet is read into the draft. -/
  | cons {draft : δ} {key : String} {value : Json} {rest : List (String × Json)}
      {step : Except Fault δ} (outcome : δ → Except Fault δ) (member : Member δ)
      (known : format.members.find? (fun member => member.name == key) = some member)
      (absent : member.present draft = false)
      (reads : Reads (member.read draft) (spacedText spacing level value) step)
      (others : ∀ later, step = .ok later →
        Gathers format spacing level later rest (outcome later)) :
      Gathers format spacing level draft ((key, value) :: rest) (step >>= outcome)

/-- One member of a record, after its key. -/
theorem objectMembers_member {member : Member δ} {draft : δ} {key : String} {value : Json}
    {step : Except Fault δ} {text rest : List Char} (fuel : Nat) (first : Bool)
    (known : format.members.find? (fun member => member.name == key) = some member)
    (absent : member.present draft = false)
    (reads : Reads (member.read draft) (spacedText spacing level value) step)
    (ends : NumberEnd rest) {start : List Char}
    (another : anotherKey first start = .ok (true, text))
    (read : stringRest text =
      .ok (key, ':' :: (spacing.afterColon ++ (spacedText spacing level value ++ rest)))) :
    format.objectMembers (fuel + 1) first draft start =
      step >>= fun later => format.objectMembers fuel false later rest := by
  rw [RecordFormat.objectMembers]
  simp only [another, bind, Except.bind, if_true, read, known, absent, Bool.false_eq_true,
    if_false, colon_cons, reads spacing.blank_afterColon ends]
  cases step <;> rfl

/-- The members after the first one. -/
theorem objectMembers_moreMembers {draft : δ} {members : List (String × Json)}
    {outcome : Except Fault δ} (gathers : Gathers format spacing level draft members outcome)
    (outer : Nat) (rest : List Char) {fuel : Nat} (enough : members.length < fuel) :
    format.objectMembers fuel false draft
        (moreMembers spacing level members ++ (spacing.gap outer ++ '\x7d' :: rest)) =
      outcome.map fun draft => (draft, '\x7d' :: rest) := by
  induction gathers generalizing fuel with
  | nil draft =>
    obtain ⟨fuel, rfl⟩ : ∃ k, fuel = k + 1 := Nat.exists_eq_succ_of_ne_zero (by omega)
    simp [RecordFormat.objectMembers, moreMembers,
      anotherKey_close false (spacing.blank_gap outer), bind, Except.bind, pure, Except.pure,
      Except.map]
  | @cons draft key value members step outcome member known absent reads others ih =>
    obtain ⟨fuel, rfl⟩ : ∃ k, fuel = k + 1 := Nat.exists_eq_succ_of_ne_zero (by omega)
    have enough : members.length < fuel := by simpa using enough
    have ends := numberEnd_moreMembers spacing level outer members rest
    obtain ⟨text, written, read⟩ := key_read key (spacing.afterColon ++
      (spacedText spacing level value ++ (moreMembers spacing level members ++
        (spacing.gap outer ++ '\x7d' :: rest))))
    simp only [moreMembers, List.cons_append, List.append_assoc]
    rw [objectMembers_member fuel false known absent reads ends
      (anotherKey_comma spacing level key written) read]
    cases step with
    | error fault => rfl
    | ok later => exact ih later rfl enough

/-- **The members of an object are gathered one after the other.** -/
theorem objectMembers_objectRest {draft : δ} {members : List (String × Json)}
    {outcome : Except Fault δ} (gathers : Gathers format spacing (level + 1) draft members outcome)
    (rest : List Char) {fuel : Nat} (enough : members.length < fuel) :
    format.objectMembers fuel true draft (objectRest spacing level members ++ rest) =
      outcome.map fun draft => (draft, '\x7d' :: rest) := by
  obtain ⟨fuel, rfl⟩ : ∃ k, fuel = k + 1 := Nat.exists_eq_succ_of_ne_zero (by omega)
  cases gathers with
  | nil =>
    have close := anotherKey_close true blank_nil rest
    rw [List.nil_append] at close
    simp [RecordFormat.objectMembers, objectRest, close, bind, Except.bind, pure, Except.pure,
      Except.map]
  | @cons _ key value members step outcome member known absent reads others =>
    have enough : members.length < fuel := by simpa using enough
    have ends := numberEnd_moreMembers spacing (level + 1) level members rest
    obtain ⟨text, written, read⟩ := key_read key (spacing.afterColon ++
      (spacedText spacing (level + 1) value ++ (moreMembers spacing (level + 1) members ++
        (spacing.gap level ++ '\x7d' :: rest))))
    simp only [objectRest, List.append_assoc, List.cons_append, List.nil_append]
    rw [objectMembers_member fuel true known absent reads ends
      (anotherKey_first spacing (level + 1) key written) read]
    cases step with
    | error fault => rfl
    | ok later => exact objectMembers_moreMembers (others later rfl) level rest enough

/-- **A record is read as its members come to.** -/
theorem reads_record {members : List (String × Json)} {outcome : Except Fault δ}
    (gathers : Gathers format spacing (level + 1) format.empty members outcome) :
    Reads format.read (spacedText spacing level (.object members)) (outcome >>= format.finish) := by
  intro before rest blank _
  have enough : members.length < (objectRest spacing level members ++ rest).length + 1 := by
    have length := length_le_objectRest spacing level members
    rw [List.length_append]
    omega
  have closed : closeObject ('\x7d' :: rest) = .ok rest := punctuation_blank rest blank_nil rfl
  rw [spacedText_object, List.cons_append, RecordFormat.read, skipSpace_token blank (by decide)]
  simp only [objectMembers_objectRest gathers rest enough]
  cases outcome with
  | error fault => rfl
  | ok draft =>
    simp only [Except.map, bind, Except.bind]
    cases format.finish draft with
    | error fault => rfl
    | ok record => simp only [closed, pure, Except.pure]

/-! ### Members with readers of their own -/

/-- What is read by a reader of its own is put into the draft. -/
theorem reads_put {reader : Reader β} {text : List Char} {step : Except Fault β} (put : β → δ)
    (reads : Reads reader text step) :
    Reads (fun text => (reader text).map fun (read, rest) => (put read, rest)) text
      (step.map put) := by
  intro before rest blank ends
  dsimp only
  rw [reads blank ends]
  cases step <;> rfl

section Of

variable {name : String} {draft : δ} {rest : List (String × Json)} {member : Member δ}

/-- **A member with a reader of its own**: the others follow in the draft with what was read. -/
theorem Gathers.of {reader : Reader β} {value : Json} {step : Except Fault β}
    {outcome : β → Except Fault δ} (after : β → δ)
    (known : format.members.find? (fun member => member.name == name) = some member)
    (absent : member.present draft = false)
    (read : member.read draft =
      fun text => (reader text).map fun (found, rest) => (after found, rest))
    (reads : Reads reader (spacedText spacing level value) step)
    (others : ∀ found, Gathers format spacing level (after found) rest (outcome found)) :
    Gathers format spacing level draft ((name, value) :: rest) (step >>= outcome) := by
  have reads : Reads (member.read draft) (spacedText spacing level value) (step.map after) := by
    rw [read]
    exact reads_put after reads
  cases step with
  | error fault => exact .cons (fun _ => .error fault) member known absent reads nofun
  | ok found =>
    refine .cons (fun _ => outcome found) member known absent reads ?_
    rintro later ⟨rfl⟩
    exact others found

/-- **A member that is written where it has a value**: the others follow in the draft with what was
read of it, or in the draft as it is. -/
theorem Gathers.optional {ι : Type} {item : Reader β} {o : Option ι} {encode : ι → Json}
    {step : ι → Except Fault β} {outcome : Option β → Except Fault δ}
    (after : Option (Option β) → δ)
    (known : format.members.find? (fun member => member.name == name) = some member)
    (skipped : draft = after none) (absent : member.present draft = false)
    (read : member.read draft =
      fun text => (readOptional item text).map fun (found, rest) => (after (some found), rest))
    (written : ∀ value, o = some value → (encode value).writesNull = false)
    (reads : ∀ value, o = some value →
      Reads item (spacedText spacing level (encode value)) (step value))
    (others : ∀ found : Option β,
      Gathers format spacing level (after (found.map some)) rest (outcome found)) :
    Gathers format spacing level draft (optionalMember name (o.map encode) ++ rest)
      (o.mapM step >>= outcome) := by
  cases o with
  | none =>
    rw [skipped]
    exact others none
  | some value =>
    have reads : Reads (member.read draft) (spacedText spacing level (encode value))
        (((step value).map some).map fun found => after (some found)) := by
      rw [read]
      exact reads_put (fun found => after (some found))
        (reads_some (written value rfl) (reads value rfl))
    rw [Option.mapM_some]
    cases stepped : step value with
    | error fault =>
      rw [stepped] at reads
      exact .cons (fun _ => .error fault) member known absent reads nofun
    | ok found =>
      rw [stepped] at reads
      refine .cons (fun _ => outcome (some found)) member known absent reads ?_
      rintro later ⟨rfl⟩
      exact others (some found)

end Of

end Members

end IncompleteBeta.Json
