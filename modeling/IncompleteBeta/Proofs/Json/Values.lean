/-
**Any value read back from its own text.**

A reader of any value keeps everything of it but the doubles, and makes these of their digits.

* `Held`: the values that can be held, nested up to a depth;
* `sortedObject_sorted`, `member?_sortedObject`: members that are put in order, and found again;
* `Json.numbers`, `rereadValue`: the doubles of a value, and the value with every double as it is
  read from its own text;
* **`reads_value`**: a held value is read as that;
* `rereadValue_eq_ok`: and as itself exactly if each of its doubles is.
-/

import IncompleteBeta.Proofs.Failure
import IncompleteBeta.Proofs.Json.Records
import Mathlib.Order.Basic

namespace IncompleteBeta.Json

/-! ### Values that can be held -/

/-- **The values that can be held**, nested at most `depth` levels: integers of a word, finite
doubles, and members in strictly ascending order of their keys. -/
inductive Held : (depth : Nat) → Json → Prop where
  | null {depth : Nat} : Held depth .null
  | boolean {depth : Nat} (value : Bool) : Held depth (.boolean value)
  | integer {depth : Nat} {n : Int} (least : -2 ^ 63 ≤ n) (below : n < 2 ^ 64) :
      Held depth (.integer n)
  | float {depth : Nat} {x : Float} (finite : x.isFinite = true) : Held depth (.float x)
  | string {depth : Nat} (value : String) : Held depth (.string value)
  | array {depth : Nat} {items : List Json} (parts : ∀ item ∈ items, Held depth item) :
      Held (depth + 1) (.array items)
  | object {depth : Nat} {members : List (String × Json)}
      (sorted : (members.map Prod.fst).Pairwise (· < ·))
      (parts : ∀ member ∈ members, Held depth member.2) : Held (depth + 1) (.object members)

/-! ### Members in order -/

theorem insertMember_last {key : String} {value : Json} {sorted : List (String × Json)}
    (last : ∀ member ∈ sorted, member.1 < key) :
    insertMember key value sorted = sorted ++ [(key, value)] := by
  induction sorted with
  | nil => rfl
  | cons member sorted ih =>
    obtain ⟨before, others⟩ := List.forall_mem_cons.mp last
    rw [insertMember, if_neg (String.lt_asymm before), if_pos before, ih others, List.cons_append]

theorem lookup_cons_eq_ite (key other : String) (value : Json) (rest : List (String × Json)) :
    ((other, value) :: rest).lookup key = if key = other then some value else rest.lookup key := by
  by_cases found : key = other
  · rw [if_pos found, found, List.lookup_cons_self]
  · rw [if_neg found, List.lookup_cons, beq_false_of_ne found]

/-- A member that is put in is found, and all others are as before. -/
theorem lookup_insertMember (key other : String) (value : Json) (sorted : List (String × Json)) :
    (insertMember other value sorted).lookup key =
      if key = other then some value else sorted.lookup key := by
  induction sorted with
  | nil => exact lookup_cons_eq_ite key other value []
  | cons member rest ih =>
    obtain ⟨name, kept⟩ := member
    unfold insertMember
    by_cases before : other < name
    · rw [if_pos before, lookup_cons_eq_ite]
    rw [if_neg before]
    by_cases after : name < other
    · rw [if_pos after, lookup_cons_eq_ite, ih, lookup_cons_eq_ite]
      by_cases found : key = name
      · have differs : key ≠ other := fun same => String.lt_irrefl _ (same ▸ found ▸ after)
        rw [if_pos found, if_pos found, if_neg differs]
      · rw [if_neg found, if_neg found]
    · have same : other = name :=
        String.le_antisymm (String.not_lt.mp after) (String.not_lt.mp before)
      rw [if_neg after, same, lookup_cons_eq_ite, lookup_cons_eq_ite]
      by_cases found : key = name
      · rw [if_pos found, if_pos found]
      · rw [if_neg found, if_neg found, if_neg found]

section Folding

variable {put : List (String × Json) → String × Json → List (String × Json)}
  (puts : ∀ sorted member, put sorted member = insertMember member.1 member.2 sorted)
include puts

theorem foldl_sorted {members first : List (String × Json)}
    (sorted : (members.map Prod.fst).Pairwise (· < ·))
    (before : ∀ member ∈ first, ∀ key ∈ members.map Prod.fst, member.1 < key) :
    members.foldl put first = first ++ members := by
  induction members generalizing first with
  | nil => exact (List.append_nil first).symm
  | cons member members ih =>
    obtain ⟨least, sorted⟩ := List.pairwise_cons.mp sorted
    have last : insertMember member.1 member.2 first = first ++ [member] :=
      insertMember_last fun earlier inside => before earlier inside member.1 List.mem_cons_self
    rw [List.foldl_cons, puts, last, ih sorted]
    · rw [List.append_assoc, List.singleton_append]
    · intro earlier inside key among
      rcases List.mem_append.mp inside with old | same
      · exact before earlier old key (List.mem_cons_of_mem _ among)
      · rw [List.mem_singleton.mp same]
        exact least key among

theorem lookup_foldl (key : String) (members sorted : List (String × Json)) :
    (members.foldl put sorted).lookup key =
      (members.reverse.lookup key).or (sorted.lookup key) := by
  induction members generalizing sorted with
  | nil => rfl
  | cons member rest ih =>
    obtain ⟨other, value⟩ := member
    rw [List.foldl_cons, ih, puts, lookup_insertMember, List.reverse_cons, List.lookup_append,
      Option.or_assoc, lookup_cons_eq_ite, List.lookup_nil]
    by_cases found : key = other
    · rw [if_pos found, if_pos found, Option.some_or]
    · rw [if_neg found, if_neg found, Option.none_or]

end Folding

/-- **Members in order stay as they are.** -/
theorem sortedObject_sorted {members : List (String × Json)}
    (sorted : (members.map Prod.fst).Pairwise (· < ·)) : sortedObject members = .object members :=
  congrArg Json.object (foldl_sorted (fun _ _ => rfl) sorted (List.forall_mem_nil _))

/-- **In an object with sorted members the last of those with a key is found.** -/
theorem member?_sortedObject (key : String) (members : List (String × Json)) :
    (sortedObject members).member? key = members.reverse.lookup key :=
  (lookup_foldl (fun _ _ => rfl) key members []).trans Option.or_none

/-! ### The doubles of a value -/

mutual

/-- The doubles of a value, in the order in which they are written. -/
def numbers : Json → List Float
  | .float x => [x]
  | .array items => itemNumbers items
  | .object members => memberNumbers members
  | .null | .boolean _ | .integer _ | .string _ => []

def itemNumbers : List Json → List Float
  | [] => []
  | item :: rest => item.numbers ++ itemNumbers rest

def memberNumbers : List (String × Json) → List Float
  | [] => []
  | (_, value) :: rest => value.numbers ++ memberNumbers rest

end

mutual

/-- A value with every double as it is read from its own text, or the first fault in reading one. -/
def rereadValue : Json → Except Fault Json
  | .float x => (reread x).map .float
  | .array items => (rereadItems items).map .array
  | .object members => (rereadMembers members).map .object
  | .null => .ok .null
  | .boolean value => .ok (.boolean value)
  | .integer n => .ok (.integer n)
  | .string value => .ok (.string value)

def rereadItems : List Json → Except Fault (List Json)
  | [] => .ok []
  | item :: rest => do return (← rereadValue item) :: (← rereadItems rest)

def rereadMembers : List (String × Json) → Except Fault (List (String × Json))
  | [] => .ok []
  | (key, value) :: rest => do return (key, ← rereadValue value) :: (← rereadMembers rest)

end

theorem rereadItems_eq (items : List Json) : rereadItems items = items.mapM rereadValue := by
  induction items with
  | nil => rfl
  | cons item rest ih => rw [rereadItems, ih, List.mapM_cons]

/-- Reading the value of a member. -/
def inMember {α β : Type} (read : α → Except Fault β) (member : String × α) :
    Except Fault (String × β) :=
  (read member.2).map fun found => (member.1, found)

/-- Reading the values of members keeps the keys. -/
theorem keys_of_inMember {α β : Type} {read : α → Except Fault β} {members : List (String × α)}
    {found : List (String × β)} (reads : members.mapM (inMember read) = .ok found) :
    found.map Prod.fst = members.map Prod.fst := by
  induction members generalizing found with
  | nil =>
    cases reads
    rfl
  | cons member members ih =>
    rw [List.mapM_cons] at reads
    obtain ⟨head, first, reads⟩ := bind_eq_ok.mp reads
    obtain ⟨tail, others, same⟩ := bind_eq_ok.mp reads
    obtain ⟨value, _, key⟩ := map_eq_ok.mp first
    cases same
    rw [List.map_cons, List.map_cons, ih others, ← key]

theorem rereadMembers_eq (members : List (String × Json)) :
    rereadMembers members = members.mapM (inMember rereadValue) := by
  induction members with
  | nil => rfl
  | cons member rest ih =>
    obtain ⟨key, value⟩ := member
    rw [rereadMembers, ih, List.mapM_cons, inMember]
    cases rereadValue value <;> rfl

theorem itemNumbers_eq (items : List Json) : itemNumbers items = items.flatMap numbers := by
  induction items with
  | nil => rfl
  | cons item rest ih => rw [itemNumbers, ih, List.flatMap_cons]

theorem memberNumbers_eq (members : List (String × Json)) :
    memberNumbers members = members.flatMap fun member => member.2.numbers := by
  induction members with
  | nil => rfl
  | cons member rest ih => rw [memberNumbers, ih, List.flatMap_cons]

/-- The doubles of a held value are finite. -/
theorem Held.isFinite {depth : Nat} {value : Json} (held : Held depth value) :
    ∀ x ∈ value.numbers, x.isFinite = true := by
  induction held with
  | null | boolean | integer | string => exact List.forall_mem_nil _
  | float finite => exact List.forall_mem_singleton.mpr finite
  | array parts ih =>
    rw [numbers, itemNumbers_eq, List.forall_mem_flatMap]
    exact ih
  | object sorted parts ih =>
    rw [numbers, memberNumbers_eq, List.forall_mem_flatMap]
    exact ih

/-! ### Reading members -/

section Members

variable {β : Type} {item : Reader β} {outcome : Json → Except Fault β} {spacing : Spacing}
  {level : Nat}

/-- One member of an object, after its key. -/
theorem members_member {key : String} {value : Json} {text rest : List Char} (fuel : Nat)
    (first : Bool) (reads : Reads item (spacedText spacing level value) (outcome value))
    (ends : NumberEnd rest) {start : List Char}
    (another : anotherKey first start = .ok (true, text))
    (read : stringRest text =
      .ok (key, ':' :: (spacing.afterColon ++ (spacedText spacing level value ++ rest)))) :
    members stringRest item (fuel + 1) first start =
      inMember outcome (key, value) >>= fun head =>
        (members stringRest item fuel false rest).map fun (tail, rest) => (head :: tail, rest) := by
  rw [members]
  simp only [another, bind, Except.bind, if_true, read, colon_cons,
    reads spacing.blank_afterColon ends, inMember]
  cases outcome value with
  | error fault => rfl
  | ok head =>
    dsimp only [Except.map]
    cases members stringRest item fuel false rest <;> rfl

/-- The members after the first one are read one after the other. -/
theorem members_moreMembers {values : List (String × Json)} (outer : Nat) (rest : List Char)
    (reads : ∀ member ∈ values, Reads item (spacedText spacing level member.2) (outcome member.2))
    {fuel : Nat} (enough : values.length < fuel) :
    members stringRest item fuel false
        (moreMembers spacing level values ++ (spacing.gap outer ++ '\x7d' :: rest)) =
      (values.mapM (inMember outcome)).map fun read => (read, rest) := by
  induction values generalizing fuel with
  | nil =>
    obtain ⟨fuel, rfl⟩ : ∃ k, fuel = k + 1 := Nat.exists_eq_succ_of_ne_zero (by omega)
    have closed : closeObject ('\x7d' :: rest) = .ok rest := punctuation_blank rest blank_nil rfl
    simp [members, moreMembers, anotherKey_close false (spacing.blank_gap outer), closed, bind,
      Except.bind, pure, Except.pure, Except.map]
  | cons member values ih =>
    obtain ⟨fuel, rfl⟩ : ∃ k, fuel = k + 1 := Nat.exists_eq_succ_of_ne_zero (by omega)
    obtain ⟨first, others⟩ := List.forall_mem_cons.mp reads
    obtain ⟨key, value⟩ := member
    have enough : values.length < fuel := by simpa using enough
    have ends := numberEnd_moreMembers spacing level outer values rest
    obtain ⟨text, written, read⟩ := key_read key (spacing.afterColon ++
      (spacedText spacing level value ++ (moreMembers spacing level values ++
        (spacing.gap outer ++ '\x7d' :: rest))))
    simp only [moreMembers, List.cons_append, List.append_assoc]
    rw [members_member fuel false first ends (anotherKey_comma spacing level key written) read,
      ih others enough, List.mapM_cons]
    cases inMember outcome (key, value) with
    | error fault => rfl
    | ok head => cases values.mapM (inMember outcome) <;> rfl

/-- **The members of an object are read one after the other.** -/
theorem members_objectRest {values : List (String × Json)} (rest : List Char)
    (reads : ∀ member ∈ values,
      Reads item (spacedText spacing (level + 1) member.2) (outcome member.2))
    {fuel : Nat} (enough : values.length < fuel) :
    members stringRest item fuel true (objectRest spacing level values ++ rest) =
      (values.mapM (inMember outcome)).map fun read => (read, rest) := by
  obtain ⟨fuel, rfl⟩ : ∃ k, fuel = k + 1 := Nat.exists_eq_succ_of_ne_zero (by omega)
  cases values with
  | nil =>
    have close := anotherKey_close true blank_nil rest
    have closed : closeObject ('\x7d' :: rest) = .ok rest := punctuation_blank rest blank_nil rfl
    rw [List.nil_append] at close
    simp [members, objectRest, close, closed, bind, Except.bind, pure, Except.pure, Except.map]
  | cons member values =>
    obtain ⟨first, others⟩ := List.forall_mem_cons.mp reads
    obtain ⟨key, value⟩ := member
    have enough : values.length < fuel := by simpa using enough
    have ends := numberEnd_moreMembers spacing (level + 1) level values rest
    obtain ⟨text, written, read⟩ := key_read key (spacing.afterColon ++
      (spacedText spacing (level + 1) value ++ (moreMembers spacing (level + 1) values ++
        (spacing.gap level ++ '\x7d' :: rest))))
    simp only [objectRest, List.append_assoc, List.cons_append, List.nil_append]
    rw [members_member fuel true first ends (anotherKey_first spacing (level + 1) key written) read,
      members_moreMembers level rest others enough, List.mapM_cons]
    cases inMember outcome (key, value) with
    | error fault => rfl
    | ok head => cases values.mapM (inMember outcome) <;> rfl

end Members

/-! ### Reading any value -/

section Value

variable {spacing : Spacing}

/-- What begins like a number is read as one. -/
theorem readValue_number {text rest : List Char} (outcome : Except Fault Number) (depth : Nat)
    {before : List Char} (blank : Blank before)
    (number : ∃ c others, text = c :: others ∧ (c = '-' ∨ c.isDigit = true))
    (read : readNumber (text ++ rest) = outcome.map fun number => (number, rest)) :
    readValue depth (before ++ (text ++ rest)) =
      outcome.map fun number => (number.toJson, rest) := by
  obtain ⟨skipped, starts⟩ := startsNumber_skipSpace rest blank number
  obtain ⟨c, others, rfl, leading⟩ := number
  have letter {l : Char} (none : startsNumber [l] = false) : c ≠ l := by
    rintro rfl
    exact absurd (token_of_number leading).2.2.2 (by simp [none])
  rw [readValue, skipped]
  rw [List.cons_append] at starts read ⊢
  dsimp only
  rw [if_neg (letter (by decide)), if_neg (letter (by decide)), if_neg (letter (by decide)),
    if_pos starts, read]
  cases outcome <;> rfl

/-- A list is read by its items. -/
theorem reads_array {depth level : Nat} {items : List Json}
    (reads : ∀ item ∈ items, Reads (readValue (depth + 1))
      (spacedText spacing (level + 1) item) (rereadValue item)) :
    Reads (readValue (depth + 2)) (spacedText spacing level (.array items))
      (rereadValue (.array items)) := by
  intro before rest blank _
  have length := length_le_arrayRest spacing level items
  have enough : items.length < (arrayRest spacing level items ++ rest).length + 1 := by
    rw [List.length_append]
    omega
  have read : Json.items (readValue (depth + 1))
      ((arrayRest spacing level items ++ rest).length + 1) true
      (arrayRest spacing level (items.map id) ++ rest) =
        (items.mapM rereadValue).map fun read => (read, rest) :=
    items_arrayRest rest reads enough
  rw [List.map_id] at read
  rw [spacedText_array, List.cons_append, readValue, skipSpace_token blank (by decide),
    rereadValue, rereadItems_eq]
  refine (congrArg (Except.map _) read).trans ?_
  cases items.mapM rereadValue <;> rfl

/-- An object is read by its members, which stay in their order. -/
theorem reads_object {depth level : Nat} {members : List (String × Json)}
    (sorted : (members.map Prod.fst).Pairwise (· < ·))
    (reads : ∀ member ∈ members, Reads (readValue (depth + 1))
      (spacedText spacing (level + 1) member.2) (rereadValue member.2)) :
    Reads (readValue (depth + 2)) (spacedText spacing level (.object members))
      (rereadValue (.object members)) := by
  intro before rest blank _
  have length := length_le_objectRest spacing level members
  have enough : members.length < (objectRest spacing level members ++ rest).length + 1 := by
    rw [List.length_append]
    omega
  have read := members_objectRest rest reads enough
  rw [spacedText_object, List.cons_append, readValue, skipSpace_token blank (by decide),
    rereadValue, rereadMembers_eq]
  refine (congrArg (Except.map _) read).trans ?_
  cases reread : members.mapM (inMember rereadValue) with
  | error fault => rfl
  | ok found =>
    rw [← keys_of_inMember reread] at sorted
    exact congrArg (fun value => Except.ok (value, rest)) (sortedObject_sorted sorted)

/-- **A held value is read with every double as it is read from its own text.** -/
theorem reads_value {depth : Nat} {value : Json} (held : Held depth value) (level : Nat) :
    Reads (readValue (depth + 1)) (spacedText spacing level value) (rereadValue value) := by
  induction held generalizing level with
  | null =>
    intro before rest blank _
    rw [spacedText, List.cons_append, readValue, skipSpace_token blank (by decide)]
    exact congrArg (Except.map _) (literal_append ['u', 'l', 'l'] rest)
  | boolean value =>
    intro before rest blank _
    cases value with
    | true =>
      rw [spacedText, booleanText, List.cons_append, readValue, skipSpace_token blank (by decide)]
      exact congrArg (Except.map _) (literal_append ['r', 'u', 'e'] rest)
    | false =>
      rw [spacedText, booleanText, List.cons_append, readValue, skipSpace_token blank (by decide)]
      exact congrArg (Except.map _) (literal_append ['a', 'l', 's', 'e'] rest)
  | @integer _ n least below =>
    intro before rest blank ends
    exact readValue_number (.ok (.integer n)) _ blank (integerText_eq_cons n)
      (readNumber_integerText least below ends)
  | @float _ x finite =>
    intro before rest blank ends
    have read : readNumber (floatText x ++ rest) =
        ((reread x).map Number.float).map fun number => (number, rest) := by
      rw [readNumber_floatText finite ends]
      cases reread x <;> rfl
    rw [spacedText, readValue_number _ _ blank (floatText_eq_cons finite) read, rereadValue]
    cases reread x <;> rfl
  | string value =>
    intro before rest blank _
    obtain ⟨text, written, read⟩ := stringRest_stringText value rest
    rw [spacedText, written, readValue, skipSpace_token blank (by decide)]
    exact congrArg (Except.map _) read
  | array parts ih => exact reads_array fun item inside => ih item inside (level + 1)
  | object sorted parts ih =>
    exact reads_object sorted fun member inside => ih member inside (level + 1)

end Value

/-! ### Values that are read as themselves -/

theorem inMember_eq_ok_self {α : Type} {read : α → Except Fault α} {member : String × α} :
    inMember read member = .ok member ↔ read member.2 = .ok member.2 := by
  obtain ⟨key, value⟩ := member
  rw [inMember, map_eq_ok]
  constructor
  · rintro ⟨found, reads, same⟩
    cases same
    exact reads
  · exact fun reads => ⟨value, reads, rfl⟩

/-- **A value is read as itself exactly if each of its doubles is.** -/
theorem rereadValue_eq_ok (value : Json) :
    rereadValue value = .ok value ↔ ∀ x ∈ value.numbers, reread x = .ok x := by
  induction value using nested with
  | null | boolean | integer | string => exact iff_of_true rfl (List.forall_mem_nil _)
  | float x =>
    rw [rereadValue, numbers, List.forall_mem_singleton, map_eq_ok]
    constructor
    · rintro ⟨y, reads, same⟩
      cases same
      exact reads
    · exact fun reads => ⟨x, reads, rfl⟩
  | array items ih =>
    rw [numbers, itemNumbers_eq, List.forall_mem_flatMap, ← forall₂_congr ih, ← mapM_eq_ok_self,
      rereadValue, rereadItems_eq, map_eq_ok]
    simp only [Json.array.injEq, exists_eq_right]
  | object members ih =>
    have each : (∀ member ∈ members, ∀ x ∈ member.2.numbers, reread x = .ok x) ↔
        members.mapM (inMember rereadValue) = .ok members := by
      rw [mapM_eq_ok_self]
      exact forall₂_congr fun member inside =>
        (ih member inside).symm.trans inMember_eq_ok_self.symm
    rw [numbers, memberNumbers_eq, List.forall_mem_flatMap, each, rereadValue, rereadMembers_eq,
      map_eq_ok]
    simp only [Json.object.injEq, exists_eq_right]

end IncompleteBeta.Json
