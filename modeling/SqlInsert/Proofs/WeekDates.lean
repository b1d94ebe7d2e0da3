import Mathlib
import SqlInsert.Calendar.Basic
/-!
# Days of a year and days of a week

A day is the same whether it is named by its month, by its place in the year or by its week. The days from
the first of January of year 1 are counted without a gap, that day is a Monday, and the Thursday of a week
fixes the year that the week belongs to and its number there.
-/

namespace SqlInsert.Calendar

namespace Date

/-! ## Days of a year -/

/-- The number of days of some months of a year. -/
def daysOfMonths (year : Nat) (months : List Nat) : Nat :=
  (months.map (monthLength year)).foldr (· + ·) 0

/-- No months have no days. -/
@[simp] theorem daysOfMonths_nil (year : Nat) : daysOfMonths year [] = 0 := rfl

/-- The days of the first month are added to those of the later ones. -/
theorem daysOfMonths_cons (year month : Nat) (later : List Nat) :
    daysOfMonths year (month :: later) = monthLength year month + daysOfMonths year later := rfl

/-- The place of a day in its year, from zero. -/
def dayOfYear (date : Date) : Nat :=
  daysOfMonths date.year (List.range' 1 (date.month - 1)) + (date.day - 1)

/-- The number of a day counts the years before its own and the days within it. -/
theorem dayNumber_eq (date : Date) : date.dayNumber = daysBeforeYear date.year + date.dayOfYear :=
  Nat.add_assoc _ _ _

/-- The first of consecutive months is counted before the others. -/
theorem daysOfMonths_range' {first month : Nat} (year : Nat) (h : first < month) :
    daysOfMonths year (List.range' first (month - first)) =
      monthLength year first + daysOfMonths year (List.range' (first + 1) (month - (first + 1))) := by
  rw [show month - first = month - (first + 1) + 1 by omega, List.range'_succ, daysOfMonths_cons]

/-- A day of a year lies in the month that follows so many days. -/
theorem monthAndDay?_eq_some_iff {year index first count month day : Nat} :
    monthAndDay? year (List.range' first count) index = some (month, day) ↔
      first ≤ month ∧ month < first + count ∧ 1 ≤ day ∧ day ≤ monthLength year month ∧
        index = daysOfMonths year (List.range' first (month - first)) + (day - 1) := by
  induction count generalizing first index with
  | zero =>
    rw [List.range'_zero, monthAndDay?]
    exact iff_of_false (by simp) (by omega)
  | succ count ih =>
    have hself : daysOfMonths year (List.range' first (first - first)) = 0 := by
      rw [Nat.sub_self]
      rfl
    have hlater : first < month → _ := daysOfMonths_range' year
    rw [List.range'_succ, monthAndDay?]
    by_cases hindex : index < monthLength year first
    · rw [if_pos hindex, Option.some.injEq, Prod.mk.injEq]
      constructor
      · rintro ⟨rfl, rfl⟩
        omega
      · rintro ⟨hfirst, hlast, hday, hlength, hplace⟩
        rcases Nat.eq_or_lt_of_le hfirst with rfl | hless
        · omega
        · have hbehind := hlater hless
          omega
    · rw [if_neg hindex, ih]
      constructor
      · rintro ⟨hfirst, hlast, hday, hlength, hplace⟩
        have hbehind := hlater hfirst
        omega
      · rintro ⟨hfirst, hlast, hday, hlength, hplace⟩
        rcases Nat.eq_or_lt_of_le hfirst with rfl | hless
        · omega
        · have hbehind := hlater hless
          omega

/-- There is a month for every day that the months have. -/
theorem isSome_monthAndDay?_iff {year index : Nat} {months : List Nat} :
    (monthAndDay? year months index).isSome = true ↔ index < daysOfMonths year months := by
  induction months generalizing index with
  | nil => simp [monthAndDay?]
  | cons month later ih =>
    rw [monthAndDay?, daysOfMonths_cons]
    by_cases hindex : index < monthLength year month
    · rw [if_pos hindex]
      exact iff_of_true rfl (by omega)
    · rw [if_neg hindex, ih]
      omega

/-- The twelve months make a year. -/
theorem daysOfMonths_year (year : Nat) : daysOfMonths year (List.range' 1 12) = yearLength year := by
  cases h : isLeapYear year <;> simp [daysOfMonths, List.range', monthLength, yearLength, h]

/-- A date is made of three numbers exactly where they are its own. -/
theorem ofNumbers?_eq_some_iff {year month day : Nat} {date : Date} :
    ofNumbers? year month day = some date ↔ date.year = year ∧ date.month = month ∧ date.day = day := by
  unfold ofNumbers?
  constructor
  · intro h
    obtain ⟨_, hdate⟩ := Option.dite_none_right_eq_some.mp h
    cases hdate
    exact ⟨rfl, rfl, rfl⟩
  · rintro ⟨rfl, rfl, rfl⟩
    exact dif_pos date.valid

/-- The numbers of a date lie in the ranges of the calendar. -/
theorem numbers_valid (date : Date) :
    1 ≤ date.year ∧ date.year ≤ 9999 ∧ 1 ≤ date.month ∧ date.month ≤ 12 ∧
      1 ≤ date.day ∧ date.day ≤ monthLength date.year date.month := by
  have hvalid := date.valid
  simp only [isDate, Bool.and_eq_true, decide_eq_true_eq] at hvalid
  omega

/-- The day at a place of a year. -/
theorem ofDayOfYear?_eq_some_iff {year index : Nat} {date : Date} :
    ofDayOfYear? year index = some date ↔ date.year = year ∧ date.dayOfYear = index := by
  obtain ⟨_, _, hfirst, hlast, hday, hlength⟩ := date.numbers_valid
  unfold ofDayOfYear? dayOfYear
  simp only [Option.bind_eq_bind, Option.bind_eq_some_iff, Prod.exists, ofNumbers?_eq_some_iff]
  constructor
  · rintro ⟨month, day, hplace, rfl, rfl, rfl⟩
    exact ⟨rfl, (monthAndDay?_eq_some_iff.mp hplace).2.2.2.2.symm⟩
  · rintro ⟨rfl, rfl⟩
    have hmonth : date.month < 1 + 12 := by omega
    have hplace := monthAndDay?_eq_some_iff.mpr ⟨hfirst, hmonth, hday, hlength, rfl⟩
    exact ⟨date.month, date.day, hplace, rfl, rfl, rfl⟩

/-- The day of a year lies below the length of the year. -/
theorem dayOfYear_lt (date : Date) : date.dayOfYear < yearLength date.year := by
  have hplace : ofDayOfYear? date.year date.dayOfYear = some date := ofDayOfYear?_eq_some_iff.mpr ⟨rfl, rfl⟩
  unfold ofDayOfYear? at hplace
  obtain ⟨place, hplace, _⟩ := Option.bind_eq_some_iff.mp hplace
  rw [← daysOfMonths_year, ← isSome_monthAndDay?_iff, hplace]
  rfl

/-! ## Days of all years -/

/-- Years follow each other without a gap. -/
theorem daysBeforeYear_succ {year : Nat} (h : 1 ≤ year) :
    daysBeforeYear (year + 1) = daysBeforeYear year + yearLength year := by
  obtain ⟨past, rfl⟩ : ∃ past, year = past + 1 := ⟨year - 1, by omega⟩
  have hcenturies : past / 100 ≤ past := Nat.div_le_self past 100
  -- Every four hundredth year is a hundredth one, and every hundredth a fourth one.
  have hfourth : (past + 1) % 100 = 0 → (past + 1) % 4 = 0 := by omega
  have hhundredth : (past + 1) % 400 = 0 → (past + 1) % 100 = 0 := by omega
  unfold daysBeforeYear yearLength isLeapYear
  simp only [Nat.add_sub_cancel, Bool.and_eq_true, Bool.or_eq_true, beq_iff_eq, bne_iff_ne, Nat.succ_div,
    Nat.dvd_iff_mod_eq_zero]
  generalize (past + 1) % 4 = quarter at *
  generalize (past + 1) % 100 = century at *
  generalize (past + 1) % 400 = cycle at *
  split_ifs <;> omega

/-- A year has 366 days or 365, as it is a leap year or not. -/
theorem yearLength_cases (year : Nat) :
    (isLeapYear year = true ∧ yearLength year = 366) ∨ (isLeapYear year = false ∧ yearLength year = 365) := by
  unfold yearLength
  cases isLeapYear year
  · exact .inr ⟨rfl, rfl⟩
  · exact .inl ⟨rfl, rfl⟩

/-- Later years have no fewer days before them. -/
theorem daysBeforeYear_mono : Monotone daysBeforeYear := by
  refine monotone_nat_of_le_succ fun year => ?_
  rcases Nat.eq_zero_or_pos year with rfl | hyear
  · exact Nat.le_refl 0
  · rw [daysBeforeYear_succ hyear]
    exact Nat.le_add_right _ _

/-- The number of a day tells its year. -/
theorem year_eq_iff {date : Date} {year : Nat} (h : 1 ≤ year) :
    date.year = year ↔ daysBeforeYear year ≤ date.dayNumber ∧ date.dayNumber < daysBeforeYear (year + 1) := by
  obtain ⟨hyear, _⟩ := date.numbers_valid
  have hnumber := date.dayNumber_eq
  have hplace := date.dayOfYear_lt
  have hnext := daysBeforeYear_succ hyear
  constructor
  · rintro rfl
    omega
  · rintro ⟨hstart, hstop⟩
    rcases Nat.lt_trichotomy date.year year with hless | hsame | hmore
    · have hbefore : daysBeforeYear (date.year + 1) ≤ daysBeforeYear year := daysBeforeYear_mono hless
      omega
    · exact hsame
    · have hbehind : daysBeforeYear (year + 1) ≤ daysBeforeYear date.year := daysBeforeYear_mono hmore
      omega

/-- The day at a place of a year has the number of that place. -/
theorem ofDayOfYear?_eq_some_iff_dayNumber {year index : Nat} {date : Date} (h : 1 ≤ year)
    (hindex : index < yearLength year) :
    ofDayOfYear? year index = some date ↔ date.dayNumber = daysBeforeYear year + index := by
  have hnext := daysBeforeYear_succ h
  have hnumber := date.dayNumber_eq
  rw [ofDayOfYear?_eq_some_iff]
  constructor
  · rintro ⟨rfl, rfl⟩
    exact hnumber
  · intro hplace
    have hyear : date.year = year := (year_eq_iff h).mpr (by omega)
    rw [hyear] at hnumber
    exact ⟨hyear, by omega⟩

/-! ## Days of a week -/

/-- The number of the Thursday in the week of a day; the first day of year 1 is a Monday. -/
def thursday (date : Date) : Nat :=
  date.dayNumber - date.dayNumber % 7 + 3

/-- A day is the given day of a week: the week belongs to the year that holds its Thursday, and is numbered
by the Thursdays before. -/
structure IsWeekDay (date : Date) (year week weekday : Nat) : Prop where
  weekday_eq : date.dayNumber % 7 + 1 = weekday
  start : daysBeforeYear year ≤ date.thursday
  stop : date.thursday < daysBeforeYear (year + 1)
  week_eq : (date.thursday - daysBeforeYear year) / 7 + 1 = week

/-- Every day lies before the end of the year 9999. -/
theorem dayNumber_lt (date : Date) : date.dayNumber < 3652059 := by
  obtain ⟨hyear, hlast, _⟩ := date.numbers_valid
  have hstop := ((year_eq_iff hyear).mp rfl).2
  have hmono : daysBeforeYear (date.year + 1) ≤ daysBeforeYear 10000 := daysBeforeYear_mono (by omega)
  have hall : daysBeforeYear 10000 = 3652059 := rfl
  omega

/-- The numbers of a week date have four, two and one digits. -/
theorem IsWeekDay.bounds {date : Date} {year week weekday : Nat} (h : date.IsWeekDay year week weekday) :
    1 ≤ year ∧ year ≤ 9999 ∧ 1 ≤ week ∧ week ≤ 53 ∧ 1 ≤ weekday ∧ weekday ≤ 7 := by
  obtain ⟨hweekday, hstart, hstop, hweek⟩ := h
  have hnumber := date.dayNumber_lt
  have hyear : 1 ≤ year := by
    rcases Nat.eq_zero_or_pos year with rfl | hpositive
    · have hnone : daysBeforeYear (0 + 1) = 0 := rfl
      omega
    · exact hpositive
  have hlast : year ≤ 9999 := by
    rcases Nat.lt_or_ge year 10000 with hless | hmore
    · omega
    · have hall : daysBeforeYear 10000 ≤ daysBeforeYear year := daysBeforeYear_mono hmore
      rw [show daysBeforeYear 10000 = 3652059 from rfl] at hall
      unfold thursday at hstart
      omega
  have hlength := yearLength_cases year
  have hnext := daysBeforeYear_succ hyear
  omega

/-- The first Thursday of a year lies three days behind the Monday of its first week. -/
theorem firstMonday_eq (year : Nat) : firstMonday year = (3 - (daysBeforeYear year : Int)) % 7 - 3 := by
  unfold firstMonday firstWeekday
  split <;> omega

/-- The weeks of a year are those whose Thursday lies in it. -/
theorem le_weekCount_iff {year week : Nat} :
    week ≤ weekCount year ↔ firstMonday year + 7 * ((week : Int) - 1) + 3 < yearLength year := by
  unfold firstMonday weekCount firstWeekday
  rcases yearLength_cases year with ⟨hleap, hlength⟩ | ⟨hleap, hlength⟩ <;> rw [hleap, hlength]
  · simp only [and_true]
    split_ifs <;> omega
  · simp only [Bool.false_eq_true, and_false, or_false]
    split_ifs <;> omega

/-- A week date counts weeks and days from the Monday of the first week. -/
theorem isWeekDay_iff {date : Date} {year week weekday : Nat} (hyear : 1 ≤ year) :
    date.IsWeekDay year week weekday ↔
      (1 ≤ week ∧ week ≤ weekCount year ∧ 1 ≤ weekday ∧ weekday ≤ 7) ∧
        (date.dayNumber : Int) =
          daysBeforeYear year + (firstMonday year + 7 * ((week : Int) - 1) + ((weekday : Int) - 1)) := by
  have hnext := daysBeforeYear_succ hyear
  have hmonday := firstMonday_eq year
  rw [le_weekCount_iff]
  constructor
  · rintro ⟨hweekday, hstart, hstop, hweek⟩
    unfold thursday at hstart hstop hweek
    omega
  · rintro ⟨⟨hfirst, hlast, hlow, hhigh⟩, hnumber⟩
    have hthursday : (date.thursday : Int) =
        daysBeforeYear year + (firstMonday year + 7 * ((week : Int) - 1) + 3) := by
      unfold thursday
      omega
    exact ⟨by omega, by omega, by omega, by omega⟩

/-- A week date is exactly the day that it names, in its year or in a neighbouring one. -/
theorem ofWeekDate?_eq_some_iff {year week weekday : Nat} {date : Date} :
    ofWeekDate? year week weekday = some date ↔ date.IsWeekDay year week weekday := by
  unfold ofWeekDate?
  by_cases hyear : 1 ≤ year
  · rw [isWeekDay_iff hyear]
    by_cases hrange : 1 ≤ week ∧ week ≤ weekCount year ∧ 1 ≤ weekday ∧ weekday ≤ 7
    · rw [if_pos ⟨hyear, hrange⟩, and_iff_right hrange]
      obtain ⟨hfirst, hlast, hlow, hhigh⟩ := hrange
      have hmonday := firstMonday_eq year
      have hnext := daysBeforeYear_succ hyear
      rw [le_weekCount_iff] at hlast
      dsimp only
      generalize hindex : firstMonday year + 7 * ((week : Int) - 1) + ((weekday : Int) - 1) = index
      -- The day may fall into the year before, the year itself or the year behind.
      split
      · rename_i hbefore
        have hyear' : 1 ≤ year - 1 := by
          rcases Nat.lt_or_ge 1 year with hlater | hone
          · omega
          · obtain rfl : year = 1 := by omega
            rw [show daysBeforeYear 1 = 0 from rfl] at hmonday
            omega
        have hlength := yearLength_cases (year - 1)
        have hbegin := daysBeforeYear_succ hyear'
        rw [show year - 1 + 1 = year by omega] at hbegin
        rw [ofDayOfYear?_eq_some_iff_dayNumber hyear' (by omega)]
        omega
      · split
        · rw [ofDayOfYear?_eq_some_iff_dayNumber hyear (by omega)]
          omega
        · have hlength := yearLength_cases (year + 1)
          have hlength' := yearLength_cases year
          rw [ofDayOfYear?_eq_some_iff_dayNumber (by omega) (by omega)]
          omega
    · rw [if_neg fun h => hrange h.2]
      exact iff_of_false (by simp) fun h => hrange h.1
  · rw [if_neg fun h => hyear h.1]
    exact iff_of_false (by simp) fun h => hyear h.bounds.1

end Date

end SqlInsert.Calendar
