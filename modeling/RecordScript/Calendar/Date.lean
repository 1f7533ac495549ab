/-!
# Dates

Days of the proleptic Gregorian calendar, which extends the rule of leap years to all years. A date
can be told by its month and day, by its day of the year, or by a week and a weekday; weekdays are
counted from zero for Monday.
-/

namespace RecordScript

/-- Whether a year has 366 days. -/
def isLeapYear (year : Int) : Bool := year % 4 = 0 && (year % 100 ≠ 0 || year % 400 = 0)

/-- The number of days of a year. -/
def daysInYear (year : Int) : Nat := if isLeapYear year then 366 else 365

/-- The number of days of a month, and zero where there is no such month. -/
def daysInMonth (year : Int) (month : Nat) : Nat :=
  match month with
  | 1 | 3 | 5 | 7 | 8 | 10 | 12 => 31
  | 4 | 6 | 9 | 11 => 30
  | 2 => if isLeapYear year then 29 else 28
  | _ => 0

/-- The number of days of a year before a month. -/
def daysBeforeMonth (year : Int) : Nat → Nat
  | 0 => 0
  | month + 1 => daysBeforeMonth year month + daysInMonth year month

/-- The earliest year of a date. -/
def firstYear : Int := -262143

/-- The latest year of a date. -/
def lastYear : Int := 262142

/-- A day of the calendar. -/
structure Date where
  year : Int
  month : Nat
  day : Nat
deriving DecidableEq, Repr

namespace Date

/-- Whether the calendar has the day, and its year is within the bounds. -/
def IsValid (d : Date) : Prop :=
  firstYear ≤ d.year ∧ d.year ≤ lastYear ∧ 1 ≤ d.month ∧ d.month ≤ 12 ∧
    1 ≤ d.day ∧ d.day ≤ daysInMonth d.year d.month

instance (d : Date) : Decidable d.IsValid := by unfold IsValid; infer_instance

/-- The date with the given year, month and day, if there is one. -/
def ofMonthDay? (year : Int) (month day : Nat) : Option Date :=
  let d : Date := ⟨year, month, day⟩
  if d.IsValid then some d else none

/-- The month, and the day in it, that hold a day counted from the start of `month`. -/
def monthOfDay (year : Int) : Nat → Nat → Nat → Nat × Nat
  | 0, month, day => (month, day)
  | fuel + 1, month, day =>
    if day ≤ daysInMonth year month then (month, day)
    else monthOfDay year fuel (month + 1) (day - daysInMonth year month)

/-- The date with the given day of the year, if there is one. -/
def ofDayOfYear? (year : Int) (ordinal : Nat) : Option Date :=
  if 1 ≤ ordinal ∧ ordinal ≤ daysInYear year then
    let (month, day) := monthOfDay year 11 1 ordinal
    ofMonthDay? year month day
  else none

/-- The day of the year, counted from one. -/
def dayOfYear (d : Date) : Nat := daysBeforeMonth d.year d.month + d.day

/-- The weekday of a day given by its day of the year. -/
def weekdayOf (year : Int) (ordinal : Int) : Nat :=
  let y := year - 1
  ((365 * y + y / 4 - y / 100 + y / 400 + ordinal - 1) % 7).toNat

/-- The weekday of a date. -/
def weekday (d : Date) : Nat := weekdayOf d.year d.dayOfYear

/-- How many days after the weekday `start` the weekday `w` comes. -/
def daysSince (w start : Nat) : Nat := (w + 7 - start) % 7

/-- The number of the week of a date, when week one begins with the first weekday `start` of the
year. -/
def weekFrom (d : Date) (start : Nat) : Nat :=
  (d.dayOfYear + 6 - daysSince d.weekday start) / 7

/-- The number of weeks that belong to a year by the rule that a week belongs to the year of its
Thursday. -/
def isoWeeksInYear (year : Int) : Nat :=
  if weekdayOf year 1 = 3 ∨ (isLeapYear year ∧ weekdayOf year 1 = 2) then 53 else 52

/-- The year that the week of a date belongs to, and the number of the week in it. -/
def isoWeek (d : Date) : Int × Nat :=
  let week := (d.dayOfYear + 9 - d.weekday) / 7
  if week = 0 then (d.year - 1, isoWeeksInYear (d.year - 1))
  else if isoWeeksInYear d.year < week then (d.year + 1, 1)
  else (d.year, week)

/-- The date `ordinal` days after the last day of the year before `year`; the neighbouring years are
looked at as well. -/
def ofDayNearYear? (year : Int) (ordinal : Int) : Option Date :=
  if ordinal ≤ 0 then ofDayOfYear? (year - 1) (ordinal + daysInYear (year - 1)).toNat
  else if ordinal ≤ daysInYear year then ofDayOfYear? year ordinal.toNat
  else ofDayOfYear? (year + 1) (ordinal - daysInYear year).toNat

/-- The date with the given week and weekday, by the rule that a week belongs to the year of its
Thursday. -/
def ofIsoWeek? (year : Int) (week weekday : Nat) : Option Date :=
  if 1 ≤ week ∧ week ≤ isoWeeksInYear year then
    let firstThursday : Int := 1 + daysSince 3 (weekdayOf year 1)
    ofDayNearYear? year (firstThursday - 3 + 7 * (week - 1) + weekday)
  else none

/-- The quarter of the year, counted from one. -/
def quarter (d : Date) : Nat := (d.month - 1) / 3 + 1

/-- A number written with at least `width` digits. -/
def padded (width n : Nat) : List Char :=
  let digits := Nat.toDigits 10 n
  List.replicate (width - digits.length) '0' ++ digits

/-- The year in four digits, with a sign where it is negative or longer. -/
def renderYear (year : Int) : List Char :=
  if year < 0 then '-' :: padded 4 year.natAbs
  else if 9999 < year then '+' :: padded 4 year.natAbs
  else padded 4 year.natAbs

/-- The date as year, month and day between hyphens. -/
def render (d : Date) : String :=
  String.ofList (renderYear d.year ++ '-' :: padded 2 d.month ++ '-' :: padded 2 d.day)

end Date

end RecordScript
