/-
**What readers make of written values.**

* `Reads`: a reader makes something of a text, whatever white space stands in front of the text and
  whatever follows it;
* `reads_string`, `reads_float`, `reads_natural`, `reads_boolean`, `reads_name`: values without
  parts;
* `reads_some`, `reads_none`, **`reads_list`**: optional values and lists.
-/

import IncompleteBeta.Json.Record
import IncompleteBeta.Proofs.Json.Number

namespace IncompleteBeta.Json

variable {α β δ : Type}

/-- **What a reader makes of a text**, with white space in front of it and any text behind it that
does not go on with a number. -/
def Reads (reader : Reader α) (text : List Char) (outcome : Except Fault α) : Prop :=
  ∀ ⦃before rest : List Char⦄, Blank before → NumberEnd rest →
    reader (before ++ (text ++ rest)) = outcome.map fun read => (read, rest)

/-- A whole text is read as its reader reads it. -/
theorem Reads.whole {reader : Reader α} {text : List Char} {outcome : Except Fault α}
    (reads : Reads reader text outcome) : whole reader (String.ofList text) = outcome := by
  have alone := reads blank_nil numberEnd_nil
  rw [List.nil_append, List.append_nil] at alone
  rw [Json.whole, String.toList_ofList, alone]
  cases outcome <;> rfl

/-- A line is read as its text is. -/
theorem Reads.line {reader : Reader α} {text : List Char} {outcome : Except Fault α}
    (reads : Reads reader text outcome) :
    Json.whole reader (String.ofList text ++ "\n") = outcome := by
  have newline : Blank ['\n'] := blank_cons rfl blank_nil
  have ended := reads blank_nil (numberEnd_blank newline numberEnd_nil)
  rw [List.nil_append, List.append_nil] at ended
  rw [Json.whole, String.toList_append, String.toList_ofList]
  show (reader (text ++ ['\n']) >>= _) = _
  rw [ended]
  cases outcome <;> rfl

/-! ### Where values begin -/

/-- Whether `null` is written for a value. -/
def writesNull : Json → Bool
  | .null => true
  | .float x => !x.isFinite
  | _ => false

theorem writesNull_float {x : Float} (finite : x.isFinite = true) :
    (Json.float x).writesNull = false := by simp [writesNull, finite]

theorem token_of_isDigit {c : Char} (digit : c.isDigit = true) :
    isSpace c = false ∧ c ≠ ']' ∧ c ≠ 'n' ∧ startsNumber [c] = true := by
  refine ⟨?_, ?_, ?_, by simp [startsNumber, digit]⟩
  · rw [Bool.eq_false_iff]
    intro space
    simp only [isSpace, Bool.or_eq_true, decide_eq_true_eq] at space
    rcases space with ((rfl | rfl) | rfl) | rfl <;> exact absurd digit (by decide)
  all_goals
    rintro rfl
    exact absurd digit (by decide)

theorem integerText_eq_cons (n : Int) :
    ∃ c rest, integerText n = c :: rest ∧ (c = '-' ∨ c.isDigit = true) := by
  unfold integerText
  split
  next => exact ⟨'-', _, rfl, Or.inl rfl⟩
  next =>
    obtain ⟨c, rest, leading, digit⟩ := (isWhole_toDigits n.natAbs).eq_cons
    exact ⟨c, rest, leading, Or.inr digit⟩

theorem floatText_eq_cons {x : Float} (finite : x.isFinite = true) :
    ∃ c rest, floatText x = c :: rest ∧ (c = '-' ∨ c.isDigit = true) := by
  rw [floatText_eq finite]
  split
  next => exact ⟨'-', _, rfl, Or.inl rfl⟩
  next =>
    obtain ⟨c, rest, leading, digit⟩ := decimalText_eq_cons (Decimal.normal_shortest .toEven x)
    exact ⟨c, rest, leading, Or.inr digit⟩

theorem token_of_number {c : Char} (number : c = '-' ∨ c.isDigit = true) :
    isSpace c = false ∧ c ≠ ']' ∧ c ≠ 'n' ∧ startsNumber [c] = true := by
  rcases number with rfl | digit
  · decide
  · exact token_of_isDigit digit

/-- **With which character a value begins.** -/
theorem spacedText_eq_cons (spacing : Spacing) (level : Nat) (value : Json) :
    ∃ c rest, spacedText spacing level value = c :: rest ∧ isSpace c = false ∧ c ≠ ']' ∧
      (c = 'n' → value.writesNull = true) := by
  cases value with
  | null => exact ⟨_, _, rfl, by decide, by decide, fun _ => rfl⟩
  | boolean value => cases value <;> exact ⟨_, _, rfl, by decide, by decide, by decide⟩
  | integer value =>
    obtain ⟨c, rest, leading, number⟩ := integerText_eq_cons value
    obtain ⟨space, bracket, letter, -⟩ := token_of_number number
    exact ⟨c, rest, leading, space, bracket, fun same => absurd same letter⟩
  | float value =>
    cases finite : value.isFinite with
    | true =>
      obtain ⟨c, rest, leading, number⟩ := floatText_eq_cons finite
      obtain ⟨space, bracket, letter, -⟩ := token_of_number number
      exact ⟨c, rest, leading, space, bracket, fun same => absurd same letter⟩
    | false =>
      refine ⟨'n', ['u', 'l', 'l'], ?_, by decide, by decide, fun _ => by simp [writesNull, finite]⟩
      simp [spacedText, floatText, finite]
  | string value => exact ⟨_, _, rfl, by decide, by decide, fun same => absurd same (by decide)⟩
  | array items =>
    cases items <;>
      exact ⟨_, _, rfl, by decide, by decide, fun same => absurd same (by decide)⟩
  | object members =>
    rcases members with _ | ⟨⟨key, value⟩, rest⟩ <;>
      exact ⟨_, _, rfl, by decide, by decide, fun same => absurd same (by decide)⟩

/-! ### Values without parts -/

theorem reads_string (s : String) : Reads readString (stringText s) (.ok s) := by
  intro before rest blank _
  obtain ⟨text, written, read⟩ := stringRest_stringText s rest
  rw [written, readString, skipSpace_token blank (by decide)]
  exact read

/-- The text of a number after white space is taken for a number. -/
theorem startsNumber_skipSpace {before text : List Char} (rest : List Char) (blank : Blank before)
    (number : ∃ c others, text = c :: others ∧ (c = '-' ∨ c.isDigit = true)) :
    skipSpace (before ++ (text ++ rest)) = text ++ rest ∧ startsNumber (text ++ rest) = true := by
  obtain ⟨c, others, rfl, leading⟩ := number
  obtain ⟨space, -, -, starts⟩ := token_of_number leading
  exact ⟨skipSpace_token blank space, starts⟩

/-- **A finite double is read as `reread` tells.** -/
theorem reads_float {x : Float} (finite : x.isFinite = true) :
    Reads readFloat (floatText x) (reread x) := by
  intro before rest blank ends
  obtain ⟨skipped, starts⟩ := startsNumber_skipSpace rest blank (floatText_eq_cons finite)
  rw [readFloat]
  simp only [skipped, starts, if_true, readNumber_floatText finite ends]
  cases reread x <;> rfl

theorem reads_natural (wanted : String) {n : Nat} (small : n < 2 ^ 64) :
    Reads (readNatural wanted) (integerText n) (.ok n) := by
  intro before rest blank ends
  obtain ⟨skipped, starts⟩ := startsNumber_skipSpace rest blank (integerText_eq_cons n)
  have read := readNumber_integerText (n := (n : Int)) (by omega) (by omega) ends
  rw [readNatural]
  simp only [skipped, starts, if_true, read, bind, Except.bind, pure, Except.pure, Except.map]
  rw [if_pos (Int.natCast_nonneg n), Int.toNat_natCast]

theorem reads_boolean (value : Bool) : Reads readBoolean (booleanText value) (.ok value) := by
  intro before rest blank _
  cases value with
  | true =>
    rw [readBoolean]
    simp only [booleanText, List.cons_append,
      skipSpace_token blank (show isSpace 't' = false by rfl)]
    exact congrArg (Except.map _) (literal_append ['r', 'u', 'e'] rest)
  | false =>
    rw [readBoolean]
    simp only [booleanText, List.cons_append,
      skipSpace_token blank (show isSpace 'f' = false by rfl)]
    exact congrArg (Except.map _) (literal_append ['a', 'l', 's', 'e'] rest)

/-- A name is read as what it is known to mean. -/
theorem reads_name (known : List (String × α)) (name : String) :
    Reads (readName known) (stringText name) (resolve known name) := by
  intro before rest blank _
  obtain ⟨text, written, read⟩ := stringRest_stringText name rest
  rw [written, readName, skipSpace_token blank (by decide)]
  simp only [read, bind, Except.bind]
  cases resolve known name <;> rfl

/-! ### Optional values -/

/-- A value that does not begin like `null` is read as the value. -/
theorem reads_some {item : Reader α} {spacing : Spacing} {level : Nat} {value : Json}
    {outcome : Except Fault α} (present : value.writesNull = false)
    (reads : Reads item (spacedText spacing level value) outcome) :
    Reads (readOptional item) (spacedText spacing level value) (outcome.map some) := by
  intro before rest blank ends
  obtain ⟨c, others, written, space, -, null⟩ := spacedText_eq_cons spacing level value
  have letter : c ≠ 'n' := by
    intro same
    rw [null same] at present
    cases present
  have read := reads blank_nil ends
  rw [written] at read ⊢
  rw [List.cons_append, readOptional, skipSpace_token blank space]
  split
  next same =>
    cases same
    exact absurd rfl letter
  next =>
    rw [List.nil_append, List.cons_append] at read
    rw [read]
    cases outcome <;> rfl

theorem reads_none (item : Reader α) :
    Reads (readOptional item) ['n', 'u', 'l', 'l'] (.ok none) := by
  intro before rest blank _
  rw [List.cons_append, readOptional, skipSpace_token blank (by decide)]
  exact congrArg (Except.map _) (literal_append ['u', 'l', 'l'] rest)

/-! ### Lists -/

/-- The text of an array after its opening bracket. -/
def arrayRest (spacing : Spacing) (level : Nat) : List Json → List Char
  | [] => [']']
  | item :: rest =>
    spacing.gap (level + 1) ++ (spacedText spacing (level + 1) item
      ++ (moreItems spacing (level + 1) rest ++ (spacing.gap level ++ [']'])))

theorem spacedText_array (spacing : Spacing) (level : Nat) (items : List Json) :
    spacedText spacing level (.array items) = '[' :: arrayRest spacing level items := by
  cases items with
  | nil => simp only [spacedText, arrayRest]
  | cons item rest => simp only [spacedText, arrayRest, List.append_assoc]

theorem punctuation_blank {before : List Char} {wanted : Char} (rest : List Char)
    (blank : Blank before) (token : isSpace wanted = false) :
    punctuation wanted (before ++ wanted :: rest) = .ok rest := by
  rw [punctuation, skipSpace_token blank token]
  exact if_pos rfl

section Items

variable {spacing : Spacing} {level : Nat} {item : Reader β} {encode : α → Json}
  {outcome : α → Except Fault β}

/-- What follows an item ends it. -/
theorem numberEnd_moreItems (spacing : Spacing) (level outer : Nat) (items : List Json)
    (rest : List Char) :
    NumberEnd (moreItems spacing level items ++ (spacing.gap outer ++ ']' :: rest)) := by
  cases items with
  | nil =>
    rw [moreItems, List.nil_append]
    exact numberEnd_blank (spacing.blank_gap outer)
      (numberEnd_cons (by decide) (by decide) (by decide) (by decide))
  | cons item items =>
    rw [moreItems]
    exact numberEnd_cons (by decide) (by decide) (by decide) (by decide)

theorem anotherItem_first (value : Json) (rest : List Char) :
    anotherItem true (spacing.gap level ++ (spacedText spacing level value ++ rest)) =
      .ok (true, spacedText spacing level value ++ rest) := by
  obtain ⟨c, others, written, space, bracket, -⟩ := spacedText_eq_cons spacing level value
  rw [written, List.cons_append, anotherItem, skipSpace_token (spacing.blank_gap level) space]
  simp [bracket]

theorem anotherItem_comma (value : Json) (rest : List Char) :
    anotherItem false (',' :: (spacing.gap level ++ (spacedText spacing level value ++ rest))) =
      .ok (true, spacedText spacing level value ++ rest) := by
  obtain ⟨c, others, written, space, bracket, -⟩ := spacedText_eq_cons spacing level value
  rw [written, List.cons_append, anotherItem, skipSpace_cons (by decide)]
  simp [skipSpace_token (spacing.blank_gap level) space, bracket]

theorem anotherItem_close (first : Bool) {before : List Char} (blank : Blank before)
    (rest : List Char) : anotherItem first (before ++ ']' :: rest) = .ok (false, ']' :: rest) := by
  rw [anotherItem, skipSpace_token blank (by decide)]
  rfl

/-- The items after the first one are read one after the other. -/
theorem items_moreItems {values : List α} (outer : Nat) (rest : List Char)
    (reads : ∀ a ∈ values, Reads item (spacedText spacing level (encode a)) (outcome a))
    {fuel : Nat} (enough : values.length < fuel) :
    items item fuel false
        (moreItems spacing level (values.map encode) ++ (spacing.gap outer ++ ']' :: rest)) =
      (values.mapM outcome).map fun read => (read, rest) := by
  induction values generalizing fuel with
  | nil =>
    obtain ⟨fuel, rfl⟩ : ∃ k, fuel = k + 1 := Nat.exists_eq_succ_of_ne_zero (by omega)
    have closed := punctuation_blank rest blank_nil (show isSpace ']' = false by rfl)
    rw [List.nil_append] at closed
    simp [items, moreItems, anotherItem_close false (spacing.blank_gap outer), closeArray, closed,
      bind, Except.bind, pure, Except.pure, Except.map]
  | cons a values ih =>
    obtain ⟨fuel, rfl⟩ : ∃ k, fuel = k + 1 := Nat.exists_eq_succ_of_ne_zero (by omega)
    obtain ⟨first, others⟩ := List.forall_mem_cons.mp reads
    have enough : values.length < fuel := by simpa using enough
    have head := first blank_nil
      (numberEnd_moreItems spacing level outer (values.map encode) rest)
    rw [List.nil_append] at head
    simp only [items, List.map_cons, moreItems, List.cons_append, List.append_assoc,
      anotherItem_comma, bind, Except.bind, head, if_true, List.mapM_cons]
    cases outcome a with
    | error fault => rfl
    | ok b =>
      simp only [Except.map, ih others enough]
      cases values.mapM outcome <;> rfl

/-- **The items of an array are read one after the other.** -/
theorem items_arrayRest {values : List α} (rest : List Char)
    (reads : ∀ a ∈ values, Reads item (spacedText spacing (level + 1) (encode a)) (outcome a))
    {fuel : Nat} (enough : values.length < fuel) :
    items item fuel true (arrayRest spacing level (values.map encode) ++ rest) =
      (values.mapM outcome).map fun read => (read, rest) := by
  obtain ⟨fuel, rfl⟩ : ∃ k, fuel = k + 1 := Nat.exists_eq_succ_of_ne_zero (by omega)
  cases values with
  | nil =>
    have closed := punctuation_blank rest blank_nil (show isSpace ']' = false by rfl)
    have close := anotherItem_close true blank_nil rest
    rw [List.nil_append] at closed close
    simp [items, arrayRest, close, closeArray, closed, bind, Except.bind, pure, Except.pure,
      Except.map]
  | cons a values =>
    obtain ⟨first, others⟩ := List.forall_mem_cons.mp reads
    have enough : values.length < fuel := by simpa using enough
    have head := first blank_nil
      (numberEnd_moreItems spacing (level + 1) level (values.map encode) rest)
    rw [List.nil_append] at head
    simp only [items, arrayRest, List.map_cons, List.cons_append, List.append_assoc,
      List.nil_append, anotherItem_first, bind, Except.bind, head, if_true, List.mapM_cons]
    cases outcome a with
    | error fault => rfl
    | ok b =>
      simp only [Except.map, items_moreItems level rest others enough]
      cases values.mapM outcome <;> rfl

/-- The text of an array has a character for each of its items. -/
theorem length_le_arrayRest (spacing : Spacing) (level : Nat) (items : List Json) :
    items.length ≤ (arrayRest spacing level items).length := by
  have more : ∀ rest : List Json, rest.length ≤ (moreItems spacing (level + 1) rest).length := by
    intro rest
    induction rest with
    | nil => exact Nat.zero_le _
    | cons item rest ih =>
      simp only [moreItems, List.length_cons, List.length_append]
      omega
  cases items with
  | nil => exact Nat.zero_le _
  | cons item rest =>
    have := more rest
    simp only [arrayRest, List.length_cons, List.length_append]
    omega

/-- **A list is read item by item.** -/
theorem reads_list {values : List α}
    (reads : ∀ a ∈ values, Reads item (spacedText spacing (level + 1) (encode a)) (outcome a)) :
    Reads (readList item) (spacedText spacing level (.array (values.map encode)))
      (values.mapM outcome) := by
  intro before rest blank _
  rw [spacedText_array, List.cons_append, readList, skipSpace_token blank (by decide)]
  refine items_arrayRest rest reads ?_
  have length := length_le_arrayRest spacing level (values.map encode)
  rw [List.length_map] at length
  rw [List.length_append]
  omega

end Items

end IncompleteBeta.Json
