/-!
# Days and times

Days of the calendar and times of the day, and the texts that are written for them.
-/

namespace SqlInsert.Calendar

/-! ## Calendar dates

Days of the proleptic Gregorian calendar in the years 1 to 9999, and the days of week dates: a
week belongs to the year that holds its Thursday. -/

/-- Whether February has twenty-nine days. -/
def isLeapYear (year : Nat) : Bool :=
  year % 4 == 0 && (year % 100 != 0 || year % 400 == 0)

/-- The number of days of a year. -/
def yearLength (year : Nat) : Nat :=
  if isLeapYear year then 366 else 365

/-- The number of days of a month, zero outside 1 to 12. -/
def monthLength (year month : Nat) : Nat :=
  match month with
  | 1 | 3 | 5 | 7 | 8 | 10 | 12 => 31
  | 4 | 6 | 9 | 11 => 30
  | 2 => if isLeapYear year then 29 else 28
  | _ => 0

/-- Whether the numbers name a day of the calendar. -/
def isDate (year month day : Nat) : Bool :=
  1 ≤ year && year ≤ 9999 && 1 ≤ month && month ≤ 12 && 1 ≤ day && day ≤ monthLength year month

/-- A day of the calendar. -/
structure Date where
  /-- The year, from 1 to 9999. -/
  year : Nat
  /-- The month, from 1 to 12. -/
  month : Nat
  /-- The day of the month, from 1. -/
  day : Nat
  /-- The numbers name a day. -/
  valid : isDate year month day = true
deriving DecidableEq

namespace Date

/-- The day that numbers name, if they name one. -/
def ofNumbers? (year month day : Nat) : Option Date :=
  if h : isDate year month day = true then some ⟨year, month, day, h⟩ else none

/-- The month and day of a day of the year counted from zero, in the given months. -/
def monthAndDay? (year : Nat) : List Nat → Nat → Option (Nat × Nat)
  | [], _ => none
  | month :: later, index =>
    if index < monthLength year month then some (month, index + 1)
    else monthAndDay? year later (index - monthLength year month)

/-- The day of a year counted from zero. -/
def ofDayOfYear? (year index : Nat) : Option Date := do
  let (month, day) ← monthAndDay? year (List.range' 1 12) index
  ofNumbers? year month day

/-- The number of days before a year, from the first of January of year 1. -/
def daysBeforeYear (year : Nat) : Nat :=
  let past := year - 1
  past * 365 + past / 4 - past / 100 + past / 400

/-- The number of days before a day, from the first of January of year 1. -/
def dayNumber (date : Date) : Nat :=
  daysBeforeYear date.year +
    ((List.range' 1 (date.month - 1)).map (monthLength date.year)).foldr (· + ·) 0 +
    (date.day - 1)

/-- The weekday of the first of January; Monday is zero. -/
def firstWeekday (year : Nat) : Nat :=
  daysBeforeYear year % 7

/-- The number of weeks of a year: fifty-three when the year starts on a Thursday, or on a
Wednesday and is a leap year. -/
def weekCount (year : Nat) : Nat :=
  if firstWeekday year = 3 ∨ (firstWeekday year = 2 ∧ isLeapYear year = true) then 53 else 52

/-- The place of the first week's Monday relative to the first of January. -/
def firstMonday (year : Nat) : Int :=
  if firstWeekday year ≤ 3 then -firstWeekday year else 7 - firstWeekday year

/-- The day of a week date. Days before the first or after the last of January of a year lie in
the neighbouring year. -/
def ofWeekDate? (year week weekday : Nat) : Option Date :=
  if 1 ≤ year ∧ 1 ≤ week ∧ week ≤ weekCount year ∧ 1 ≤ weekday ∧ weekday ≤ 7 then
    let index : Int := firstMonday year + 7 * (week - 1) + (weekday - 1)
    if index < 0 then ofDayOfYear? (year - 1) (yearLength (year - 1) + index).toNat
    else if index < yearLength year then ofDayOfYear? year index.toNat
    else ofDayOfYear? (year + 1) (index - yearLength year).toNat
  else none

end Date

/-! ## Times of day

A clock reading to the microsecond, alone or with the offset of its zone from universal time, and
a clock reading on a day. Two readings with offsets are equal when they name the same instant; one
with and one without an offset never are. -/

/-- A clock reading. -/
structure Clock where
  /-- The hour, below 24. -/
  hour : Nat
  /-- The minute, below 60. -/
  minute : Nat
  /-- The second, below 60. -/
  second : Nat
  /-- The microsecond, below a million. -/
  microsecond : Nat
  /-- The numbers are in range. -/
  valid : (hour < 24 && minute < 60 && second < 60 && microsecond < 1000000) = true
deriving DecidableEq

namespace Clock

/-- The reading that numbers name, if they are in range. -/
def ofNumbers? (hour minute second microsecond : Nat) : Option Clock :=
  if h : (hour < 24 && minute < 60 && second < 60 && microsecond < 1000000) = true then
    some ⟨hour, minute, second, microsecond, h⟩
  else none

/-- The start of the day. -/
def midnight : Clock := ⟨0, 0, 0, 0, rfl⟩

/-- The whole seconds since midnight. -/
def seconds (clock : Clock) : Nat :=
  clock.hour * 3600 + clock.minute * 60 + clock.second

/-- The microseconds since midnight. -/
def microseconds (clock : Clock) : Nat :=
  clock.seconds * 1000000 + clock.microsecond

end Clock

/-- The length of a day in microseconds. -/
def dayMicroseconds : Nat := 86400000000

/-- How far a zone is ahead of universal time. -/
structure Offset where
  /-- The distance in microseconds, negative behind universal time. -/
  microseconds : Int
  /-- The distance is shorter than a day. -/
  valid : microseconds.natAbs < dayMicroseconds
deriving DecidableEq

namespace Offset

/-- The offset of universal time. -/
def utc : Offset := ⟨0, by decide⟩

/-- The offset of so many seconds and microseconds with a sign. An offset of no whole second is
that of universal time. -/
def ofParts? (negative : Bool) (seconds microsecond : Nat) : Option Offset :=
  if seconds = 0 then some utc
  else
    let magnitude : Int := seconds * 1000000 + microsecond
    let distance := if negative then -magnitude else magnitude
    if h : distance.natAbs < dayMicroseconds then some ⟨distance, h⟩ else none

end Offset

/-- A time of day, with the offset of its zone if it has one. -/
structure Time where
  clock : Clock
  offset : Option Offset
deriving DecidableEq

/-- A time on a day, with the offset of its zone if it has one. -/
structure DateTime where
  date : Date
  clock : Clock
  offset : Option Offset
deriving DecidableEq

/-- Whether two times name the same instant of a day. Offsets count in whole seconds, a part of a
second towards the past. -/
def Time.denotesSame (left right : Time) : Bool :=
  match left.offset, right.offset with
  | none, none => left.clock == right.clock
  | some leftOffset, some rightOffset =>
    if leftOffset = rightOffset then left.clock == right.clock
    else
      left.clock.seconds - leftOffset.microseconds.fdiv 1000000 ==
          right.clock.seconds - rightOffset.microseconds.fdiv 1000000 &&
        left.clock.microsecond == right.clock.microsecond
  | _, _ => false

/-- The microseconds from the start of year 1 to the instant, in universal time. -/
def DateTime.instant (moment : DateTime) (offset : Offset) : Int :=
  moment.date.dayNumber * dayMicroseconds + moment.clock.microseconds - offset.microseconds

/-- Whether two times on days name the same instant. -/
def DateTime.denotesSame (left right : DateTime) : Bool :=
  match left.offset, right.offset with
  | none, none => left.date == right.date && left.clock == right.clock
  | some leftOffset, some rightOffset => left.instant leftOffset == right.instant rightOffset
  | _, _ => false

/-! ## Writing dates and times

The standard form has fields of fixed width. Microseconds stand only where there are some, an
offset only where there is a zone, and the seconds of an offset only where they are needed. -/

/-- A number in decimal digits, with leading zeros up to a width. -/
def padded (width n : Nat) : List Char :=
  let digits := Nat.toDigits 10 n
  List.replicate (width - digits.length) '0' ++ digits

/-- A date with hyphens. -/
def Date.chars (date : Date) : List Char :=
  padded 4 date.year ++ '-' :: padded 2 date.month ++ '-' :: padded 2 date.day

/-- A fraction of a second, nothing if it is zero. -/
def fractionChars (microsecond : Nat) : List Char :=
  if microsecond = 0 then [] else '.' :: padded 6 microsecond

/-- A clock reading with colons. -/
def Clock.chars (clock : Clock) : List Char :=
  padded 2 clock.hour ++ ':' :: padded 2 clock.minute ++ ':' :: padded 2 clock.second ++
    fractionChars clock.microsecond

/-- An offset with its sign. -/
def Offset.chars (offset : Offset) : List Char :=
  let distance := offset.microseconds.natAbs
  let seconds := distance / 1000000
  let fraction := distance % 1000000
  (if offset.microseconds < 0 then '-' else '+') ::
    padded 2 (seconds / 3600) ++ ':' :: padded 2 (seconds / 60 % 60) ++
    (if seconds % 60 = 0 ∧ fraction = 0 then []
     else ':' :: padded 2 (seconds % 60) ++ fractionChars fraction)

/-- An offset where there is a zone. -/
def zoneChars : Option Offset → List Char
  | none => []
  | some offset => offset.chars

/-- A time of day. -/
def Time.chars (time : Time) : List Char :=
  time.clock.chars ++ zoneChars time.offset

/-- A date and a time with a separator between them. -/
def DateTime.chars (separator : Char) (moment : DateTime) : List Char :=
  moment.date.chars ++ separator :: moment.clock.chars ++ zoneChars moment.offset

/-- The standard form of a date. -/
def Date.text (date : Date) : String := String.ofList date.chars

/-- The standard form of a time of day. -/
def Time.text (time : Time) : String := String.ofList time.chars

/-- The standard form of a date and time. -/
def DateTime.text (moment : DateTime) : String := String.ofList (moment.chars 'T')

end SqlInsert.Calendar
