/-
**Dates of the Gregorian calendar.**

The date of a day number is computed by divisions, in years that begin in March. The calendar itself
is a rule for the day after a date.

* `IsLeap`, `monthDays`, `Date.Valid`, `Date.next`: the calendar, extended to all years;
* `marchDays`, `InYear`: the days in front of a year that begins in March, and the days in it;
* `EraDay`, `inYear_march`: the divisions find the year that a day falls into, leap days at the ends
  of cycles, centuries and eras included;
* `monthEnd_eq`, `next_ofMarch`: the months of such a year, and the day after a day of it;
* **`ofDays_succ`**, **`valid_ofDays`**: dates are valid, and follow each other as in the calendar;
* `Date.number`, **`number_ofDays`**: the days from 1970-01-01, counted year by year and month by
  month, of a date that was computed;
* `Date.ofDays?`, **`ofDays?_eq`**: the divisions in words, none of which overflows.
-/

import IncompleteBeta.Proofs.Words
import IncompleteBeta.Time.Calendar
import Mathlib.Algebra.BigOperators.Intervals
import Mathlib.Order.Monotone.Basic
import Mathlib.Tactic.IntervalCases

namespace IncompleteBeta

/-! ### The calendar -/

/-- Every fourth year has a leap day, but of the last years of centuries only every fourth. -/
def IsLeap (year : Nat) : Prop := year % 4 = 0 ∧ (year % 100 ≠ 0 ∨ year % 400 = 0)

instance (year : Nat) : Decidable (IsLeap year) :=
  inferInstanceAs (Decidable (year % 4 = 0 ∧ (year % 100 ≠ 0 ∨ year % 400 = 0)))

def yearDays (year : Nat) : Nat := if IsLeap year then 366 else 365

theorem yearDays_cases (year : Nat) :
    IsLeap year ∧ yearDays year = 366 ∨ ¬IsLeap year ∧ yearDays year = 365 := by
  by_cases leap : IsLeap year
  · exact Or.inl ⟨leap, if_pos leap⟩
  · exact Or.inr ⟨leap, if_neg leap⟩

/-- The days of a month of a year. -/
def monthDays (year : Nat) : (month : Nat) → Nat
  | 2 => if IsLeap year then 29 else 28
  | 4 | 6 | 9 | 11 => 30
  | _ => 31

theorem monthDays_le (year month : Nat) : monthDays year month ≤ 31 := by
  unfold monthDays
  split
  · split_ifs <;> decide
  all_goals decide

namespace Date

/-- **A date of the calendar.** -/
structure Valid (date : Date) : Prop where
  first_month : 1 ≤ date.month
  last_month : date.month ≤ 12
  first_day : 1 ≤ date.day
  last_day : date.day ≤ monthDays date.year date.month

instance (date : Date) : Decidable date.Valid :=
  decidable_of_iff (1 ≤ date.month ∧ date.month ≤ 12 ∧ 1 ≤ date.day ∧
      date.day ≤ monthDays date.year date.month)
    ⟨fun ⟨first, last, otherFirst, otherLast⟩ => ⟨first, last, otherFirst, otherLast⟩,
      fun valid => ⟨valid.first_month, valid.last_month, valid.first_day, valid.last_day⟩⟩

/-- **The day after a date.** -/
def next (date : Date) : Date :=
  if date.day < monthDays date.year date.month then { date with day := date.day + 1 }
  else if date.month < 12 then ⟨date.year, date.month + 1, 1⟩
  else ⟨date.year + 1, 1, 1⟩

end Date

/-! ### Years that begin in March -/

/-- The days from the first of March of the year zero to that of a year. -/
def marchDays (year : Nat) : Nat := 365 * year + year / 4 - year / 100 + year / 400

/-- A year that begins in March ends with the leap day of the next year. -/
theorem marchDays_succ (year : Nat) :
    marchDays (year + 1) = marchDays year + yearDays (year + 1) := by
  unfold marchDays
  simp only [Nat.succ_div, Nat.dvd_iff_mod_eq_zero]
  rcases yearDays_cases (year + 1) with ⟨leap, length⟩ | ⟨leap, length⟩
  all_goals
    rw [length]
    unfold IsLeap at leap
    split_ifs <;> omega

theorem marchDays_mono : Monotone marchDays :=
  monotone_nat_of_le_succ fun year => by
    rw [marchDays_succ]
    exact Nat.le_add_right _ _

/-- **A day by its year that begins in March**, and the days of that year before it. -/
structure InYear (day year dayOfYear : Nat) : Prop where
  day_eq : day = marchDays year + dayOfYear
  inside : dayOfYear < yearDays (year + 1)

section Years

variable {day year otherYear dayOfYear otherDayOfYear : Nat}

theorem InYear.year_le (within : InYear day year dayOfYear)
    (otherWithin : InYear day otherYear otherDayOfYear) : year ≤ otherYear := by
  by_contra later
  have mono := marchDays_mono (Nat.succ_le_of_lt (Nat.lt_of_not_le later))
  rw [Nat.succ_eq_add_one, marchDays_succ] at mono
  have same := within.day_eq.symm.trans otherWithin.day_eq
  have inside := otherWithin.inside
  omega

/-- A day falls into one year. -/
theorem InYear.unique (within : InYear day year dayOfYear)
    (otherWithin : InYear day otherYear otherDayOfYear) :
    year = otherYear ∧ dayOfYear = otherDayOfYear := by
  have same := Nat.le_antisymm (within.year_le otherWithin) (otherWithin.year_le within)
  subst same
  exact ⟨rfl, Nat.add_left_cancel (within.day_eq.symm.trans otherWithin.day_eq)⟩

/-- The next day falls into the same year, or is the first of the next. -/
theorem InYear.succ (within : InYear day year dayOfYear) :
    InYear (day + 1) year (dayOfYear + 1) ∧ dayOfYear + 1 < yearDays (year + 1) ∨
      InYear (day + 1) (year + 1) 0 ∧ dayOfYear + 1 = yearDays (year + 1) := by
  obtain ⟨day_eq, inside⟩ := within
  rcases Nat.lt_or_ge (dayOfYear + 1) (yearDays (year + 1)) with more | last
  · exact Or.inl ⟨⟨by omega, more⟩, more⟩
  · have positive := yearDays_cases (year + 1 + 1)
    have last : dayOfYear + 1 = yearDays (year + 1) := by omega
    exact Or.inr ⟨⟨by rw [marchDays_succ]; omega, by omega⟩, last⟩

end Years

/-! ### Eras -/

/-- **A day of an era**: its century, the cycle of four years in that, the year of this and the day
of the year. Only the last year of a cycle has a day more, and of the last cycles of centuries only
that of the era. -/
structure EraDay where
  century : Nat
  cycle : Nat
  year : Nat
  day : Nat
  century_le : century ≤ 3
  cycle_le : cycle ≤ 24
  year_le : year ≤ 3
  day_le : day ≤ 365
  leap : day = 365 → year = 3 ∧ (cycle = 24 → century = 3)

namespace EraDay

def yearNumber (place : EraDay) : Nat := 100 * place.century + 4 * place.cycle + place.year

/-- The days of the era before the year. -/
def before (place : EraDay) : Nat :=
  36524 * place.century + 1461 * place.cycle + 365 * place.year

/-- Every day of an era is one of these. -/
theorem exists_eq {dayOfEra : Nat} (inside : dayOfEra < Date.eraDays) :
    ∃ place : EraDay, dayOfEra = place.before + place.day := by
  unfold Date.eraDays at inside
  obtain ⟨century, rest, centuries, within, split⟩ : ∃ century rest, century ≤ 3 ∧
      (rest < 36524 ∨ rest = 36524 ∧ century = 3) ∧ dayOfEra = 36524 * century + rest := by
    refine ⟨min 3 (dayOfEra / 36524), dayOfEra - 36524 * min 3 (dayOfEra / 36524), ?_, ?_, ?_⟩
    all_goals omega
  obtain ⟨year, day, years, days, parts⟩ : ∃ year day, year ≤ 3 ∧
      (day < 365 ∨ day = 365 ∧ year = 3) ∧ rest % 1461 = 365 * year + day := by
    refine ⟨min 3 (rest % 1461 / 365), rest % 1461 - 365 * min 3 (rest % 1461 / 365), ?_, ?_, ?_⟩
    all_goals omega
  refine ⟨⟨century, rest / 1461, year, day, centuries, ?_, years, ?_, ?_⟩, ?_⟩
  · omega
  · omega
  · omega
  · show dayOfEra = 36524 * century + 1461 * (rest / 1461) + 365 * year + day
    omega

theorem daysBeforeYear_eq (place : EraDay) :
    Date.daysBeforeYear place.yearNumber = place.before := by
  have cycles := place.cycle_le
  have years := place.year_le
  unfold Date.daysBeforeYear yearNumber before
  omega

theorem yearNumber_lt (place : EraDay) : place.yearNumber < 400 := by
  have centuries := place.century_le
  have cycles := place.cycle_le
  have years := place.year_le
  unfold yearNumber
  omega

/-- **The division finds the year of a day.** -/
theorem yearOfEra_eq (place : EraDay) :
    Date.yearOfEra (place.before + place.day) = place.yearNumber := by
  obtain ⟨century, cycle, year, day, centuries, cycles, years, days, leap⟩ := place
  show Date.yearOfEra (36524 * century + 1461 * cycle + 365 * year + day) =
    100 * century + 4 * cycle + year
  have inside : 1461 * cycle + 365 * year + day < 36524 ∨
      century = 3 ∧ cycle = 24 ∧ year = 3 ∧ day = 365 := by omega
  rcases inside with inside | ⟨rfl, rfl, rfl, rfl⟩
  swap
  · -- The last day of an era is the only one that would count for another century.
    rfl
  have last : (36524 * century + 1461 * cycle + 365 * year + day) / 146096 = 0 := by omega
  have century_eq : (36524 * century + 1461 * cycle + 365 * year + day) / 36524 = century := by
    omega
  -- A period of 1460 days too many is counted only late in the last year of a cycle.
  obtain ⟨extra, periods, le, lt⟩ : ∃ extra,
      (36524 * century + 1461 * cycle + 365 * year + day) / 1460 = 25 * century + cycle + extra ∧
      extra ≤ day ∧ day < 365 + extra :=
    ⟨(24 * century + cycle + 365 * year + day) / 1460, by omega, by omega, by omega⟩
  have ordinary : 36524 * century + 1461 * cycle + 365 * year + day
      - (25 * century + cycle + extra) + century - 0 =
      365 * (100 * century + 4 * cycle + year) + (day - extra) := by omega
  unfold Date.yearOfEra
  rw [last, century_eq, periods, ordinary]
  omega

/-- A day of an era is one of its year in all eras. -/
theorem inYear (place : EraDay) (era : Nat) :
    InYear (Date.eraDays * era + (place.before + place.day)) (place.yearNumber + era * 400)
      place.day := by
  obtain ⟨century, cycle, year, day, centuries, cycles, years, days, leap⟩ := place
  show InYear (146097 * era + (36524 * century + 1461 * cycle + 365 * year + day))
    (100 * century + 4 * cycle + year + era * 400) day
  have fourths : (100 * century + 4 * cycle + year + era * 400) / 4 =
      25 * century + cycle + 100 * era := by omega
  have hundredths : (100 * century + 4 * cycle + year + era * 400) / 100 =
      century + 4 * era := by omega
  have eras : (100 * century + 4 * cycle + year + era * 400) / 400 = era := by omega
  constructor
  · unfold marchDays
    rw [fourths, hundredths, eras]
    omega
  · have length := yearDays_cases (100 * century + 4 * cycle + year + era * 400 + 1)
    unfold IsLeap at length
    omega

end EraDay

namespace Date

/-- The year of a day of an era begins before it, and is one of the era. -/
theorem yearOfEra_le {dayOfEra : Nat} (inside : dayOfEra < eraDays) :
    daysBeforeYear (yearOfEra dayOfEra) ≤ dayOfEra ∧ yearOfEra dayOfEra < 400 := by
  obtain ⟨place, rfl⟩ := EraDay.exists_eq inside
  rw [place.yearOfEra_eq, place.daysBeforeYear_eq]
  exact ⟨Nat.le_add_right _ _, place.yearNumber_lt⟩

/-- The year, from March on, that a day falls into. -/
def marchYear (day : Nat) : Nat := yearOfEra (day % eraDays) + day / eraDays * 400

/-- The days of that year before it. -/
def marchDay (day : Nat) : Nat := day % eraDays - daysBeforeYear (yearOfEra (day % eraDays))

/-- **The divisions find the year that a day falls into.** -/
theorem inYear_march (day : Nat) : InYear day (marchYear day) (marchDay day) := by
  obtain ⟨place, split⟩ := EraDay.exists_eq (Nat.mod_lt day (by decide : 0 < eraDays))
  have whole : eraDays * (day / eraDays) + day % eraDays = day := Nat.div_add_mod day eraDays
  have within := place.inYear (day / eraDays)
  rw [← split, whole] at within
  unfold marchYear marchDay
  rw [split, place.yearOfEra_eq, place.daysBeforeYear_eq, Nat.add_sub_cancel_left]
  exact within

/-! ### Months -/

/-- The number of a month from January on, by its number from March on. -/
def calendarMonth (fromMarch : Nat) : Nat :=
  if fromMarch < 10 then fromMarch + 3 else fromMarch - 9

/-- The year of a date that falls into a month of a year that begins in March. -/
def calendarYear (year fromMarch : Nat) : Nat :=
  year + if calendarMonth fromMarch ≤ 2 then 1 else 0

/-- A date by its year that begins in March, the month of that year and the day. -/
def ofMonth (year fromMarch day : Nat) : Date :=
  ⟨calendarYear year fromMarch, calendarMonth fromMarch, day⟩

/-- A date by its year that begins in March, and the days of that year before it. -/
def ofMarch (year dayOfYear : Nat) : Date :=
  ofMonth year (monthFromMarch dayOfYear)
    (dayOfYear - daysBeforeMonth (monthFromMarch dayOfYear) + 1)

theorem ofDays_eq (days : Nat) :
    ofDays days = ofMarch (marchYear (days + epochOffset)) (marchDay (days + epochOffset)) := rfl

/-- The days of a year that begins in March until the end of one of its months. -/
def monthEnd (year fromMarch : Nat) : Nat :=
  if fromMarch = 11 then yearDays (year + 1) else daysBeforeMonth (fromMarch + 1)

section Months

variable {dayOfYear fromMarch : Nat}

/-- A day of a year falls into one of twelve months. -/
theorem monthFromMarch_spec {year : Nat} (inside : dayOfYear < yearDays (year + 1)) :
    monthFromMarch dayOfYear ≤ 11 ∧ daysBeforeMonth (monthFromMarch dayOfYear) ≤ dayOfYear ∧
      dayOfYear < monthEnd year (monthFromMarch dayOfYear) := by
  have most := yearDays_cases (year + 1)
  unfold monthEnd monthFromMarch daysBeforeMonth
  split_ifs <;> omega

theorem monthEnd_le (year fromMarch : Nat) :
    monthEnd year fromMarch ≤ daysBeforeMonth (fromMarch + 1) := by
  have most := yearDays_cases (year + 1)
  unfold monthEnd daysBeforeMonth
  split_ifs <;> omega

theorem monthFromMarch_eq {year : Nat} (first : daysBeforeMonth fromMarch ≤ dayOfYear)
    (last : dayOfYear < monthEnd year fromMarch) : monthFromMarch dayOfYear = fromMarch := by
  have before := last.trans_le (monthEnd_le year fromMarch)
  unfold daysBeforeMonth at first before
  unfold monthFromMarch
  omega

/-- A month before the last one ends where the next begins, and is not the end of the year. -/
theorem monthEnd_of_lt (year : Nat) (months : fromMarch < 11) :
    monthEnd year fromMarch = daysBeforeMonth (fromMarch + 1) ∧
      monthEnd year fromMarch < yearDays (year + 1) := by
  have least := yearDays_cases (year + 1)
  rw [monthEnd, if_neg months.ne]
  refine ⟨rfl, ?_⟩
  unfold daysBeforeMonth
  omega

theorem monthEnd_last (year : Nat) : monthEnd year 11 = yearDays (year + 1) := rfl

/-- **The months have the lengths of the calendar**, the last one with the leap day of its year. -/
theorem monthEnd_eq (year : Nat) (months : fromMarch ≤ 11) :
    monthEnd year fromMarch = daysBeforeMonth fromMarch +
      monthDays (calendarYear year fromMarch) (calendarMonth fromMarch) := by
  unfold monthEnd
  interval_cases fromMarch
  all_goals try rfl
  show yearDays (year + 1) = 337 + if IsLeap (year + 1) then 29 else 28
  unfold yearDays
  split_ifs <;> rfl

theorem calendarMonth_bounds (months : fromMarch ≤ 11) :
    1 ≤ calendarMonth fromMarch ∧ calendarMonth fromMarch ≤ 12 := by
  unfold calendarMonth
  split_ifs <;> omega

theorem valid_ofMonth {year day : Nat} (months : fromMarch ≤ 11) (positive : 1 ≤ day)
    (last : day ≤ monthDays (calendarYear year fromMarch) (calendarMonth fromMarch)) :
    (ofMonth year fromMarch day).Valid := by
  obtain ⟨first_month, last_month⟩ := calendarMonth_bounds months
  exact ⟨first_month, last_month, positive, last⟩

/-- Within a month the day counts on. -/
theorem next_ofMonth {year day : Nat}
    (more : day < monthDays (calendarYear year fromMarch) (calendarMonth fromMarch)) :
    (ofMonth year fromMarch day).next = ofMonth year fromMarch (day + 1) := if_pos more

/-- The end of a month is followed by the first day of the next. -/
theorem next_last (year : Nat) (months : fromMarch ≤ 11) :
    (ofMonth year fromMarch
        (monthDays (calendarYear year fromMarch) (calendarMonth fromMarch))).next =
      if fromMarch < 11 then ofMonth year (fromMarch + 1) 1 else ofMonth (year + 1) 0 1 := by
  refine (if_neg (lt_irrefl _)).trans ?_
  interval_cases fromMarch <;> rfl

end Months

section Next

variable {year dayOfYear : Nat}

theorem valid_ofMarch (inside : dayOfYear < yearDays (year + 1)) :
    (ofMarch year dayOfYear).Valid := by
  obtain ⟨months, first, last⟩ := monthFromMarch_spec inside
  rw [monthEnd_eq year months] at last
  exact valid_ofMonth months (Nat.le_add_left 1 _) (by omega)

/-- **The day after**, in the same year that begins in March or in the next. -/
theorem next_ofMarch (inside : dayOfYear < yearDays (year + 1)) :
    (ofMarch year dayOfYear).next =
      if dayOfYear + 1 < yearDays (year + 1) then ofMarch year (dayOfYear + 1)
      else ofMarch (year + 1) 0 := by
  obtain ⟨months, first, last⟩ := monthFromMarch_spec inside
  have length := monthEnd_eq year months
  unfold ofMarch
  generalize monthFromMarch dayOfYear = fromMarch at *
  rcases Nat.lt_or_ge (dayOfYear + 1) (monthEnd year fromMarch) with more | full
  · -- The month goes on, and the year with it.
    have most : monthEnd year fromMarch ≤ yearDays (year + 1) := by
      rcases Nat.lt_or_eq_of_le months with before | rfl
      · exact (monthEnd_of_lt year before).2.le
      · exact (monthEnd_last year).le
    rw [if_pos (more.trans_le most), monthFromMarch_eq (by omega) more,
      next_ofMonth (by omega), Nat.sub_add_comm first]
  have day_eq : dayOfYear - daysBeforeMonth fromMarch + 1 =
      monthDays (calendarYear year fromMarch) (calendarMonth fromMarch) := by omega
  rw [day_eq, next_last year months]
  rcases Nat.lt_or_eq_of_le months with before | rfl
  · -- The next month begins.
    obtain ⟨start, less⟩ := monthEnd_of_lt year before
    have same : dayOfYear + 1 = daysBeforeMonth (fromMarch + 1) := by omega
    have begun : monthFromMarch (daysBeforeMonth (fromMarch + 1)) = fromMarch + 1 := by
      unfold monthFromMarch daysBeforeMonth
      omega
    rw [if_pos before, if_pos (by omega), same, begun, Nat.sub_self]
  · -- The next year begins.
    rw [monthEnd_last] at last full
    rw [if_neg (lt_irrefl _), if_neg (by omega)]
    rfl

end Next

/-! ### Dates of days -/

/-- **The dates of days in a row follow each other in the calendar.** -/
theorem ofDays_succ (days : Nat) : ofDays (days + 1) = (ofDays days).next := by
  have within := inYear_march (days + epochOffset)
  have withinNext := inYear_march (days + epochOffset + 1)
  rw [ofDays_eq, ofDays_eq, next_ofMarch within.inside, Nat.add_right_comm]
  rcases within.succ with ⟨same, more⟩ | ⟨first, full⟩
  · obtain ⟨year_eq, day_eq⟩ := withinNext.unique same
    rw [if_pos more, year_eq, day_eq]
  · obtain ⟨year_eq, day_eq⟩ := withinNext.unique first
    rw [if_neg full.not_lt, year_eq, day_eq]

theorem valid_ofDays (days : Nat) : (ofDays days).Valid :=
  valid_ofMarch (inYear_march (days + epochOffset)).inside

theorem ofDays_zero : ofDays 0 = ⟨1970, 1, 1⟩ := rfl

/-! ### Counting days -/

/-- **The number of a date**: the days from 1970-01-01, year by year and month by month. -/
def number (date : Date) : Nat :=
  ∑ year ∈ Finset.Ico 1970 date.year, yearDays year +
    ∑ month ∈ Finset.Ico 1 date.month, monthDays date.year month + (date.day - 1)

/-- The months of a year have all its days. -/
theorem sum_monthDays (year : Nat) :
    ∑ month ∈ Finset.Ico 1 12, monthDays year month + monthDays year 12 = yearDays year := by
  rcases yearDays_cases year with ⟨leap, length⟩ | ⟨ordinary, length⟩
  · rw [length]
    simp [Finset.sum_Ico_succ_top, monthDays, leap]
  · rw [length]
    simp [Finset.sum_Ico_succ_top, monthDays, ordinary]

/-- The day after a date has the next number. -/
theorem number_next {date : Date} (valid : date.Valid) (epoch : 1970 ≤ date.year) :
    date.next.number = date.number + 1 := by
  obtain ⟨year, month, day⟩ := date
  obtain ⟨first_month, last_month, first_day, last_day⟩ := valid
  dsimp only at *
  unfold next
  dsimp only
  split_ifs with more december
  · unfold number
    dsimp only
    omega
  · unfold number
    dsimp only
    rw [Finset.sum_Ico_succ_top first_month]
    omega
  · have full := sum_monthDays year
    have last : month = 12 := by omega
    subst last
    unfold number
    dsimp only
    rw [Finset.sum_Ico_succ_top epoch, Finset.Ico_self, Finset.sum_empty]
    omega

theorem le_year_next (date : Date) : date.year ≤ date.next.year := by
  unfold next
  split_ifs
  · exact le_rfl
  · exact le_rfl
  · exact Nat.le_succ _

theorem epoch_le_ofDays (days : Nat) : 1970 ≤ (ofDays days).year := by
  induction days with
  | zero => exact le_rfl
  | succ days before =>
    rw [ofDays_succ]
    exact before.trans (le_year_next _)

/-- **The date of a day has the number of the day.** -/
theorem number_ofDays (days : Nat) : (ofDays days).number = days := by
  induction days with
  | zero => rfl
  | succ days before =>
    rw [ofDays_succ, number_next (valid_ofDays days) (epoch_le_ofDays days), before]

/-! ### The order of dates -/

/-- A date by its year, its month and its day, in the order of their weights. -/
def fields (date : Date) : List Nat := [date.year, date.month, date.day]

/-- The day after a date is later. -/
theorem fields_lt_next (date : Date) : date.fields < date.next.fields := by
  unfold next fields
  split_ifs <;> simp [List.cons_lt_cons_iff]

/-- **Dates are in the order of their days.** -/
theorem strictMono_fields_ofDays : StrictMono fun days => (ofDays days).fields :=
  strictMono_nat_of_lt_succ fun days => by
    rw [ofDays_succ]
    exact fields_lt_next _

/-! ### Words that do not overflow -/

/-- `yearOfEra` in words. -/
def yearOfEra? (dayOfEra : Int) : Option Int := do
  let fewer ← Word.signed64.fit? (dayOfEra - dayOfEra.tdiv 1460)
  let more ← Word.signed64.fit? (fewer + dayOfEra.tdiv 36524)
  let ordinary ← Word.signed64.fit? (more - dayOfEra.tdiv 146096)
  return ordinary.tdiv 365

/-- `daysBeforeYear` in words. -/
def daysBeforeYear? (yearOfEra : Int) : Option Int := do
  let ordinary ← Word.signed64.fit? (365 * yearOfEra)
  let more ← Word.signed64.fit? (ordinary + yearOfEra.tdiv 4)
  let days ← Word.signed64.fit? (more - yearOfEra.tdiv 100)
  return days

/-- `monthFromMarch` in words. -/
def monthFromMarch? (dayOfYear : Int) : Option Int := do
  let fifths ← Word.signed64.fit? (5 * dayOfYear)
  let rounded ← Word.signed64.fit? (fifths + 2)
  return rounded.tdiv 153

/-- `daysBeforeMonth` in words. -/
def daysBeforeMonth? (month : Int) : Option Int := do
  let fifths ← Word.signed64.fit? (153 * month)
  let rounded ← Word.signed64.fit? (fifths + 2)
  return rounded.tdiv 5

/-- **The date of a day in words** of 64 bits, its month and day in words of 32: there is none if a
number on the way does not fit. -/
def ofDays? (days : Int) : Option (Int × Int × Int) := do
  let shifted ← Word.signed64.fit? (days + 719468)
  let dayOfEra := shifted % 146097
  let yearOfEra ← yearOfEra? dayOfEra
  let before ← daysBeforeYear? yearOfEra
  let dayOfYear ← Word.signed64.fit? (dayOfEra - before)
  let fromMarch ← monthFromMarch? dayOfYear
  let before ← daysBeforeMonth? fromMarch
  let behind ← Word.signed64.fit? (dayOfYear - before)
  let wide ← Word.signed64.fit? (behind + 1)
  let day ← Word.unsigned32.fit? wide
  let wide ← Word.signed64.fit? (if fromMarch < 10 then fromMarch + 3 else fromMarch - 9)
  let month ← Word.unsigned32.fit? wide
  let before ← Word.signed64.fit? (shifted / 146097 * 400)
  let year ← Word.signed64.fit? (yearOfEra + before)
  let year ← Word.signed64.fit? (year + if month ≤ 2 then 1 else 0)
  return (year, month, day)

section Reckoning

theorem yearOfEra?_eq {dayOfEra : Nat} (inside : dayOfEra < eraDays) :
    yearOfEra? dayOfEra = pure ↑(yearOfEra dayOfEra) := by
  unfold eraDays at inside
  unfold yearOfEra? yearOfEra
  simp (disch := omega) only [Int.tdiv_eq_ediv_of_nonneg, Word.fit?_signed64, pure_bind]
  refine congrArg pure ?_
  omega

theorem daysBeforeYear?_eq {year : Nat} (inside : year < 400) :
    daysBeforeYear? year = pure ↑(daysBeforeYear year) := by
  unfold daysBeforeYear? daysBeforeYear
  simp (disch := omega) only [Int.tdiv_eq_ediv_of_nonneg, Word.fit?_signed64, pure_bind]
  refine congrArg pure ?_
  omega

theorem monthFromMarch?_eq {dayOfYear : Nat} (inside : dayOfYear ≤ 365) :
    monthFromMarch? dayOfYear = pure ↑(monthFromMarch dayOfYear) := by
  unfold monthFromMarch? monthFromMarch
  simp (disch := omega) only [Int.tdiv_eq_ediv_of_nonneg, Word.fit?_signed64, pure_bind]
  refine congrArg pure ?_
  omega

theorem daysBeforeMonth?_eq {month : Nat} (inside : month ≤ 11) :
    daysBeforeMonth? month = pure ↑(daysBeforeMonth month) := by
  unfold daysBeforeMonth? daysBeforeMonth
  simp (disch := omega) only [Int.tdiv_eq_ediv_of_nonneg, Word.fit?_signed64, pure_bind]
  refine congrArg pure ?_
  omega

/-- The last day that a count of seconds in 64 bits falls into. -/
def lastDay : Nat := (2 ^ 64 - 1) / 86400

/-- The number of a month, in words. -/
theorem calendarMonth_cast (fromMarch : Nat) :
    (if (fromMarch : Int) < 10 then (fromMarch : Int) + 3 else fromMarch - 9) =
      ↑(calendarMonth fromMarch) := by
  unfold calendarMonth
  split_ifs <;> omega

/-- **Nothing overflows** for the days of such seconds, nor for the next one. -/
theorem ofDays?_eq {days : Nat} (inside : days ≤ lastDay + 1) :
    ofDays? days = pure (↑(ofDays days).year, ↑(ofDays days).month, ↑(ofDays days).day) := by
  have shifted_eq : (days : Int) + 719468 = ↑(days + epochOffset) := rfl
  have bound : days + epochOffset < 2 ^ 60 := by
    unfold lastDay at inside
    unfold epochOffset
    omega
  unfold ofDays?
  rw [ofDays_eq, shifted_eq]
  generalize days + epochOffset = shifted at bound ⊢
  -- What is known of the numbers on the way.
  have era_lt := Nat.mod_lt shifted (by decide : 0 < eraDays)
  obtain ⟨before, years⟩ := yearOfEra_le era_lt
  have within := (inYear_march shifted).inside
  have most := yearDays_cases (marchYear shifted + 1)
  obtain ⟨months, begun, -⟩ := monthFromMarch_spec within
  obtain ⟨first_month, last_month⟩ := calendarMonth_bounds months
  have dayOfEra_eq : (shifted : Int) % 146097 = ↑(shifted % eraDays) := rfl
  have dayOfYear_eq : (↑(shifted % eraDays) : Int) -
      ↑(daysBeforeYear (yearOfEra (shifted % eraDays))) = ↑(marchDay shifted) :=
    (Int.ofNat_sub before).symm
  simp (disch := omega) only [Word.fit?_signed64, Word.fit?_unsigned32, pure_bind, dayOfEra_eq,
    yearOfEra?_eq, daysBeforeYear?_eq, dayOfYear_eq, monthFromMarch?_eq, daysBeforeMonth?_eq,
    calendarMonth_cast]
  refine congrArg pure (Prod.ext ?_ (Prod.ext rfl ?_))
  · show _ = (↑(marchYear shifted + if _ then 1 else 0) : Int)
    unfold marchYear eraDays
    split_ifs <;> omega
  · exact congrArg (· + 1) (Int.ofNat_sub begun).symm

end Reckoning

end Date

end IncompleteBeta
