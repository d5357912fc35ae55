/-
**Timestamps tell the time.**

A timestamp has the numbers of a date and of a time of the day, each in digits of a fixed width and
with a mark behind it.

* `Precedes`: a text is the smaller one where the two differ first, whatever follows;
* `paddedText_succ`: a padded number by its last digit, which carries its value and its order;
* `Timestamp.Field`, `Timestamp.layout`, `Timestamp.values`: the form of a timestamp, and what is in
  it;
* `readFields?_fieldsText`, `precedes_fieldsText`: texts of such a form are read back, and are in
  the order of what is in them;
* `readTimestamp?`: the instant that a timestamp tells, by counting the days of the calendar;
* **`timestamps_tell_time`**: it is the instant that was written, and time orders timestamps.
-/

import IncompleteBeta.Proofs.Decimal.Digits
import IncompleteBeta.Proofs.Text.Utf8
import IncompleteBeta.Proofs.Time.Calendar
import Mathlib.Data.List.Lex

namespace IncompleteBeta

open Text (utf8Bytes utf8Bytes_eq utf8EncodeChar_toNat)

/-! ### The order of texts -/

/-- **Texts that first differ in a character of one byte**, which is the smaller in the first text,
whatever follows it. -/
def Precedes (text other : List Char) : Prop :=
  ∃ front c later rest otherRest, text = front ++ c :: rest ∧ other = front ++ later :: otherRest ∧
    c.toNat < later.toNat ∧ later.toNat < 128

section Texts

variable {text other : List Char}

theorem Precedes.append (precedes : Precedes text other) (rest otherRest : List Char) :
    Precedes (text ++ rest) (other ++ otherRest) := by
  obtain ⟨front, c, later, more, otherMore, rfl, rfl, less, single⟩ := precedes
  exact ⟨front, c, later, more ++ rest, otherMore ++ otherRest, List.append_assoc ..,
    List.append_assoc ..,
    less, single⟩

theorem Precedes.prepend (precedes : Precedes text other) (front : List Char) :
    Precedes (front ++ text) (front ++ other) := by
  obtain ⟨inner, c, later, rest, otherRest, rfl, rfl, less, single⟩ := precedes
  exact ⟨front ++ inner, c, later, rest, otherRest, (List.append_assoc ..).symm,
    (List.append_assoc ..).symm, less, single⟩

theorem utf8EncodeChar_of_lt {c : Char} (single : c.toNat < 128) :
    ∃ byte : UInt8, byte.toNat = c.toNat ∧ String.utf8EncodeChar c = [byte] := by
  have bytes := utf8EncodeChar_toNat c
  rw [if_pos (Nat.le_of_lt_succ single), List.map_eq_singleton_iff] at bytes
  obtain ⟨byte, bytes, same⟩ := bytes
  exact ⟨byte, same, bytes⟩

/-- **The bytes of texts are in their order.** -/
theorem Precedes.bytes_lt (precedes : Precedes text other) :
    utf8Bytes (String.ofList text) < utf8Bytes (String.ofList other) := by
  obtain ⟨front, c, later, rest, otherRest, rfl, rfl, less, single⟩ := precedes
  obtain ⟨byte, same, bytes⟩ := utf8EncodeChar_of_lt (less.trans single)
  obtain ⟨otherByte, otherSame, otherBytes⟩ := utf8EncodeChar_of_lt single
  simp only [utf8Bytes_eq, String.toList_ofList, List.flatMap_append, List.flatMap_cons, bytes,
    otherBytes]
  refine List.Lex.append_left (· < ·) (List.Lex.rel ?_) _
  rw [UInt8.lt_iff_toNat_lt, same, otherSame]
  exact less

end Texts

/-! ### Padded numbers -/

section Padded

variable {width n greater : Nat}

theorem paddedText_one (n : Nat) : paddedText 1 n = Nat.toDigits 10 n := by
  have positive : 1 - (Nat.toDigits 10 n).length = 0 :=
    Nat.sub_eq_zero_of_le (List.length_pos_of_ne_nil (Nat.toDigits_ne_nil))
  rw [paddedText, positive, List.replicate_zero, List.nil_append]

/-- **A padded number by its last digit.** -/
theorem paddedText_succ (width n : Nat) :
    paddedText (width + 2) n = paddedText (width + 1) (n / 10) ++ [(n % 10).digitChar] := by
  unfold paddedText
  by_cases small : n < 10
  · rw [Nat.toDigits_of_lt_base small, Nat.div_eq_of_lt small, Nat.mod_eq_of_lt small,
      toDigits_zero]
    show List.replicate (width + 1) '0' ++ _ = List.replicate width '0' ++ ['0'] ++ _
    rw [List.replicate_succ']
  · have missing (length : Nat) : width + 2 - (length + 1) = width + 1 - length := by omega
    rw [Nat.toDigits_of_base_le (by decide) (Nat.le_of_not_lt small)]
    dsimp only
    rw [List.length_append, List.length_singleton, missing, List.append_assoc]

theorem le_length_paddedText (width n : Nat) : width ≤ (paddedText width n).length := by
  rw [paddedText, List.length_append, List.length_replicate]
  omega

theorem allDigits_paddedText (width n : Nat) : AllDigits (paddedText width n) :=
  allDigits_append (allDigits_zeros _) (allDigits_toDigits n)

theorem digitValue_digitChar {d : Nat} (small : d < 10) : digitValue d.digitChar = d := by
  rw [digitValue, Nat.toNat_digitChar_of_lt_ten small]
  exact Nat.add_sub_cancel_left ..

theorem digitsValue_paddedText (width n : Nat) :
    digitsValue 0 (paddedText (width + 1) n) = n := by
  induction width generalizing n with
  | zero => rw [paddedText_one, digitsValue_toDigits]
  | succ width ih =>
    rw [paddedText_succ, digitsValue_append, ih]
    show 10 * (n / 10) + digitValue (n % 10).digitChar = n
    rw [digitValue_digitChar (Nat.mod_lt n (by decide)), Nat.div_add_mod]

theorem precedes_digit (less : n < greater) (small : greater < 10) :
    Precedes [n.digitChar] [greater.digitChar] := by
  have code := Nat.toNat_digitChar_of_lt_ten (less.trans small)
  have otherCode := Nat.toNat_digitChar_of_lt_ten small
  exact ⟨[], _, _, [], [], rfl, rfl, by omega, by omega⟩

/-- **Numbers of as many digits are in the order of their texts.** -/
theorem precedes_paddedText (less : n < greater) (fits : greater < 10 ^ (width + 1)) :
    Precedes (paddedText (width + 1) n) (paddedText (width + 1) greater) := by
  induction width generalizing n greater with
  | zero =>
    have small : greater < 10 := fits
    rw [paddedText_one, paddedText_one, Nat.toDigits_of_lt_base (less.trans small),
      Nat.toDigits_of_lt_base small]
    exact precedes_digit less small
  | succ width ih =>
    rw [paddedText_succ, paddedText_succ]
    rcases Nat.lt_or_eq_of_le (Nat.div_le_div_right less.le : n / 10 ≤ greater / 10) with
      before | same
    · refine (ih before ?_).append _ _
      rw [Nat.div_lt_iff_lt_mul (by decide), ← Nat.pow_succ]
      exact fits
    · rw [same]
      exact (precedes_digit (by omega) (Nat.mod_lt greater (by decide))).prepend _

end Padded

namespace Timestamp

/-! ### Fields -/

/-- A number in a text: how many digits it has at least, and the mark behind it. -/
structure Field where
  more : Nat
  mark : Char
  ends : mark.isDigit = false

def Field.width (field : Field) : Nat := field.more + 1

/-- Numbers in a text, each in its field. -/
def fieldsText (layout : List Field) (values : List Nat) : List Char :=
  (List.zipWith (fun field value => paddedText field.width value ++ [field.mark]) layout
    values).flatten

/-- A number in its field, and the text behind the mark. -/
def readField? (field : Field) (text : List Char) : Option (Nat × List Char) :=
  if field.width ≤ (digitRun text).1.length ∧ (digitRun text).2.head? = some field.mark then
    some (digitsValue 0 (digitRun text).1, (digitRun text).2.tail)
  else none

/-- The numbers of a text that has no more than its fields. -/
def readFields? : (layout : List Field) → (text : List Char) → Option (List Nat)
  | [], text => if text = [] then some [] else none
  | field :: layout, text => do
    let first ← readField? field text
    let more ← readFields? layout first.2
    return first.1 :: more

section Fields

variable {layout : List Field} {values laterValues : List Nat}

theorem fieldsText_cons (field : Field) (layout : List Field) (value : Nat) (values : List Nat) :
    fieldsText (field :: layout) (value :: values) =
      paddedText field.width value ++ field.mark :: fieldsText layout values := by
  simp [fieldsText]

theorem readField?_append (field : Field) (value : Nat) (rest : List Char) :
    readField? field (paddedText field.width value ++ field.mark :: rest) = some (value, rest) := by
  have ends : DigitsEnd (field.mark :: rest) := by
    intro c first
    cases first
    exact field.ends
  rw [readField?, digitRun_append (allDigits_paddedText _ _) ends,
    if_pos ⟨le_length_paddedText _ _, rfl⟩, Field.width, digitsValue_paddedText, List.tail_cons]

/-- **What is in a text is read back from it.** -/
theorem readFields?_fieldsText (same : layout.length = values.length) :
    readFields? layout (fieldsText layout values) = some values := by
  induction layout generalizing values with
  | nil =>
    obtain rfl := List.eq_nil_of_length_eq_zero same.symm
    rfl
  | cons field layout ih =>
    obtain ⟨value, values, rfl⟩ := List.exists_cons_of_length_eq_add_one same.symm
    rw [fieldsText_cons, readFields?, readField?_append]
    show (readFields? layout (fieldsText layout values) >>= _) = _
    rw [ih (Nat.succ.inj same)]
    rfl

/-- The numbers have no more digits than their fields. -/
abbrev Fit (layout : List Field) (values : List Nat) : Prop :=
  List.Forall₂ (fun field value => value < 10 ^ field.width) layout values

/-- **What is in two texts orders them.** -/
theorem precedes_fieldsText (fit : Fit layout values) (laterFit : Fit layout laterValues)
    (less : values < laterValues) :
    Precedes (fieldsText layout values) (fieldsText layout laterValues) := by
  induction fit generalizing laterValues with
  | nil =>
    cases laterFit
    exact absurd less (lt_irrefl _)
  | @cons field value layout values small fit ih =>
    cases laterFit with
    | @cons _ laterValue _ laterValues otherSmall laterFit =>
      rw [fieldsText_cons, fieldsText_cons]
      -- The first field that differs decides, whatever the later ones hold.
      rcases List.cons_lt_cons_iff.mp less with before | ⟨rfl, later⟩
      · exact (precedes_paddedText before otherSmall).append _ _
      · exact ((ih laterFit later).prepend [field.mark]).prepend _

end Fields

/-! ### The form of a timestamp -/

/-- Year, month and day, then hours, minutes, seconds and milliseconds. -/
def layout : List Field :=
  [⟨3, '-', rfl⟩, ⟨1, '-', rfl⟩, ⟨1, 'T', rfl⟩, ⟨1, ':', rfl⟩, ⟨1, ':', rfl⟩, ⟨1, '.', rfl⟩,
    ⟨2, 'Z', rfl⟩]

/-- What is in a timestamp. -/
def values (seconds milliseconds : Nat) : List Nat :=
  (Date.ofDays (seconds / 86400)).fields ++
    [seconds % 86400 / 3600, seconds % 86400 % 3600 / 60, seconds % 86400 % 60, milliseconds]

theorem fieldsText_layout (year month day hours minutes seconds milliseconds : Nat) :
    fieldsText layout [year, month, day, hours, minutes, seconds, milliseconds] =
      paddedText 4 year ++ '-' :: paddedText 2 month ++ '-' :: paddedText 2 day
        ++ 'T' :: paddedText 2 hours ++ ':' :: paddedText 2 minutes
        ++ ':' :: paddedText 2 seconds ++ '.' :: paddedText 3 milliseconds ++ ['Z'] := by
  simp [fieldsText, layout, Field.width]

theorem timestampText_eq (seconds milliseconds : Nat) :
    timestampText seconds milliseconds = fieldsText layout (values seconds milliseconds) :=
  (fieldsText_layout _ _ _ _ _ _ _).symm

theorem length_values {seconds milliseconds : Nat} :
    (values seconds milliseconds).length = layout.length := by
  unfold values Date.fields
  exact List.length_append

/-- **The instant of a date and a time of the day**, in seconds and milliseconds after the epoch:
the days are counted in the calendar. -/
def instant? : List Nat → Option (Nat × Nat)
  | [year, month, day, hours, minutes, seconds, milliseconds] =>
    if (Date.mk year month day).Valid ∧ 1970 ≤ year ∧ hours < 24 ∧ minutes < 60 ∧ seconds < 60 ∧
        milliseconds < 1000 then
      some ((Date.mk year month day).number * 86400 + hours * 3600 + minutes * 60 + seconds,
        milliseconds)
    else none
  | _ => none

/-- The instant that a timestamp tells. -/
def readTimestamp? (text : List Char) : Option (Nat × Nat) := do
  let values ← readFields? layout text
  instant? values

/-- Which instant comes before which. -/
def Before (seconds milliseconds laterSeconds laterMilliseconds : Nat) : Prop :=
  seconds < laterSeconds ∨ seconds = laterSeconds ∧ milliseconds < laterMilliseconds

section Instants

variable {seconds milliseconds laterSeconds laterMilliseconds : Nat}

/-- **What is in a timestamp is its instant.** -/
theorem instant?_values (short : milliseconds < 1000) :
    instant? (values seconds milliseconds) = some (seconds, milliseconds) := by
  have rest := Nat.mod_lt seconds (by decide : 0 < 86400)
  have whole := Nat.div_add_mod seconds 86400
  have number := Date.number_ofDays (seconds / 86400)
  unfold values Date.fields
  show (if _ then _ else _) = _
  rw [if_pos ⟨Date.valid_ofDays _, Date.epoch_le_ofDays _, by omega, by omega, by omega, short⟩]
  show some ((Date.ofDays (seconds / 86400)).number * 86400 + _ + _ + _, _) = _
  rw [number]
  refine congrArg some (Prod.ext ?_ rfl)
  dsimp only
  omega

theorem readTimestamp?_timestampText (seconds : Nat) (short : milliseconds < 1000) :
    readTimestamp? (timestampText seconds milliseconds) = some (seconds, milliseconds) := by
  rw [timestampText_eq, readTimestamp?, readFields?_fieldsText length_values.symm,
    Option.bind_eq_bind, Option.bind_some, instant?_values short]

/-- Before the year 10000 a date has four digits for its year, and two for its month and its day. -/
theorem fit_values (year : (Date.ofDays (seconds / 86400)).year < 10000)
    (short : milliseconds < 1000) : Fit layout (values seconds milliseconds) := by
  obtain ⟨-, month, -, day⟩ := Date.valid_ofDays (seconds / 86400)
  have length := monthDays_le (Date.ofDays (seconds / 86400)).year
    (Date.ofDays (seconds / 86400)).month
  have rest := Nat.mod_lt seconds (by decide : 0 < 86400)
  refine .cons year (.cons ?_ (.cons ?_ (.cons ?_ (.cons ?_ (.cons ?_ (.cons short .nil))))))
  all_goals
    show _ < 100
    omega

/-- **Instants are in the order of what is in their timestamps.** -/
theorem Before.values_lt (before : Before seconds milliseconds laterSeconds laterMilliseconds) :
    values seconds milliseconds < values laterSeconds laterMilliseconds := by
  unfold values
  by_cases same : seconds / 86400 = laterSeconds / 86400
  · -- On one day the time of the day decides.
    rw [same]
    refine List.Lex.append_left (· < ·) ?_ _
    show ([_, _, _, _] : List Nat) < [_, _, _, _]
    simp only [List.cons_lt_cons_iff]
    unfold Before at before
    omega
  · have days : seconds / 86400 < laterSeconds / 86400 := by
      unfold Before at before
      omega
    have dates : (Date.ofDays _).fields < (Date.ofDays _).fields :=
      Date.strictMono_fields_ofDays days
    unfold Date.fields at dates ⊢
    simp only [List.cons_append, List.cons_lt_cons_iff, List.not_lt_nil, and_false, or_false]
      at dates ⊢
    tauto

theorem Before.bytes_lt (before : Before seconds milliseconds laterSeconds laterMilliseconds)
    (fit : Fit layout (values seconds milliseconds))
    (laterFit : Fit layout (values laterSeconds laterMilliseconds)) :
    utf8Bytes (String.ofList (timestampText seconds milliseconds)) <
      utf8Bytes (String.ofList (timestampText laterSeconds laterMilliseconds)) := by
  rw [timestampText_eq, timestampText_eq]
  exact (precedes_fieldsText fit laterFit before.values_lt).bytes_lt

/-- **Bytes are in the order of time.** -/
theorem bytes_lt_iff (fit : Fit layout (values seconds milliseconds))
    (laterFit : Fit layout (values laterSeconds laterMilliseconds)) :
    utf8Bytes (String.ofList (timestampText seconds milliseconds)) <
        utf8Bytes (String.ofList (timestampText laterSeconds laterMilliseconds)) ↔
      Before seconds milliseconds laterSeconds laterMilliseconds := by
  refine ⟨fun less => ?_, fun before => before.bytes_lt fit laterFit⟩
  by_contra late
  have later : Before laterSeconds laterMilliseconds seconds milliseconds ∨
      laterSeconds = seconds ∧ laterMilliseconds = milliseconds := by
    unfold Before at late ⊢
    omega
  rcases later with later | ⟨rfl, rfl⟩
  · exact List.lt_asymm less (later.bytes_lt laterFit fit)
  · exact List.lt_irrefl _ less

end Instants

/-- **Timestamps tell the time.** Days count from 1970-01-01, their dates are dates of the calendar
and follow each other in it, and no word overflows in front of the last day that 64 bits of seconds
reach, nor on the next. A timestamp is read as the instant that it was written for, so no two
instants share one, and before the year 10000 their bytes are in the order of time. -/
theorem timestamps_tell_time :
    Date.ofDays 0 = ⟨1970, 1, 1⟩ ∧
    (∀ days, (Date.ofDays days).Valid ∧ Date.ofDays (days + 1) = (Date.ofDays days).next) ∧
    (∀ days ≤ Date.lastDay + 1, Date.ofDays? days =
      some (↑(Date.ofDays days).year, ↑(Date.ofDays days).month, ↑(Date.ofDays days).day)) ∧
    (∀ seconds, ∀ milliseconds < 1000,
      readTimestamp? (timestampText seconds milliseconds) = some (seconds, milliseconds)) ∧
    (∀ seconds laterSeconds, ∀ milliseconds < 1000, ∀ laterMilliseconds < 1000,
      timestampText seconds milliseconds = timestampText laterSeconds laterMilliseconds →
        seconds = laterSeconds ∧ milliseconds = laterMilliseconds) ∧
    ∀ seconds laterSeconds, ∀ milliseconds < 1000, ∀ laterMilliseconds < 1000,
      (Date.ofDays (seconds / 86400)).year < 10000 →
      (Date.ofDays (laterSeconds / 86400)).year < 10000 →
      (utf8Bytes (String.ofList (timestampText seconds milliseconds)) <
          utf8Bytes (String.ofList (timestampText laterSeconds laterMilliseconds)) ↔
        Before seconds milliseconds laterSeconds laterMilliseconds) := by
  refine ⟨Date.ofDays_zero, fun days => ⟨Date.valid_ofDays days, Date.ofDays_succ days⟩,
    fun days inside => Date.ofDays?_eq inside,
    fun seconds milliseconds short => readTimestamp?_timestampText seconds short, ?_, ?_⟩
  · intro seconds laterSeconds milliseconds short laterMilliseconds laterShort same
    have read := readTimestamp?_timestampText seconds short
    rw [same, readTimestamp?_timestampText laterSeconds laterShort] at read
    cases read
    exact ⟨rfl, rfl⟩
  · intro seconds laterSeconds milliseconds short laterMilliseconds laterShort year otherYear
    exact bytes_lt_iff (fit_values year short) (fit_values otherYear laterShort)

/-- The end of a February of 29 days at the end of a century, and the last day that is reached. -/
theorem timestamps_tell_time_leap_day :
    Date.ofDays? Date.lastDay = some (584554051223, 11, 9) ∧
    readTimestamp? "2000-02-29T23:59:59.999Z".toList = some (951868799, 999) ∧
    "2000-02-29T23:59:59.999Z".toList ≠ "2000-03-01T00:00:00.000Z".toList ∧
    utf8Bytes (String.ofList "2000-02-29T23:59:59.999Z".toList) <
      utf8Bytes (String.ofList "2000-03-01T00:00:00.000Z".toList) := by
  obtain ⟨-, -, reckoned, read, shared, ordered⟩ := timestamps_tell_time
  have last : timestampText 951868799 999 = "2000-02-29T23:59:59.999Z".toList := by decide
  have next : timestampText 951868800 0 = "2000-03-01T00:00:00.000Z".toList := by decide
  rw [← last, ← next]
  refine ⟨reckoned Date.lastDay (by decide), read _ _ (by decide), fun same => ?_, ?_⟩
  · have instants := shared _ _ _ (by decide) _ (by decide) same
    exact absurd instants.1 (by decide)
  · exact (ordered _ _ _ (by decide) _ (by decide) (by decide) (by decide)).mpr
      (Or.inl (by decide))

end Timestamp

end IncompleteBeta
