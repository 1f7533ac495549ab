import RecordScript.Calendar.Date
import RecordScript.Calendar.Format

/-!
# Parts of a date

The parts of a date and time that a text has given so far, and the date that they determine. A part
may be given more than once, as long as it has the same value each time, and all parts must agree
with the date.
-/

namespace RecordScript

/-- Why a text is not read as a date. -/
inductive DateProblem where
  | tooShort
  | trailing
  | invalid
  | outOfRange
  | contradiction
  | undetermined
  | badFormat
deriving DecidableEq, Repr

namespace DateProblem

/-- The problem as messages show it. -/
def message : DateProblem → String
  | tooShort => "premature end of input"
  | trailing => "trailing input"
  | invalid => "input contains invalid characters"
  | outOfRange => "input is out of range"
  | contradiction => "no possible date and time matching input"
  | undetermined => "input is not enough for unique date and time"
  | badFormat => "bad or unsupported format string"

end DateProblem

/-- The parts of a date and time that have been given. -/
structure DateFields where
  year : Option Int := none
  century : Option Int := none
  yearOfCentury : Option Int := none
  isoYear : Option Int := none
  isoYearOfCentury : Option Int := none
  quarter : Option Int := none
  month : Option Int := none
  day : Option Int := none
  weekFromSunday : Option Int := none
  weekFromMonday : Option Int := none
  isoWeek : Option Int := none
  weekday : Option Int := none
  dayOfYear : Option Int := none
  halfDay : Option Int := none
  hour12 : Option Int := none
  minute : Option Int := none
  second : Option Int := none
  nanosecond : Option Int := none
  timestamp : Option Int := none
  offset : Option Int := none
deriving DecidableEq, Repr

namespace DateFields

/-- A part that is given: it must not have been given with another value. -/
def give (old : Option Int) (value : Int) : Except DateProblem (Option Int) :=
  match old with
  | none => .ok (some value)
  | some v => if v = value then .ok (some value) else .error .contradiction

/-- A value that must lie between two bounds. -/
def within (least most value : Int) : Except DateProblem Int :=
  if least ≤ value ∧ value ≤ most then .ok value else .error .outOfRange

/-- The largest value of a signed word of 32 bits. -/
def wordMax : Int := Int32.maxValue.toInt

/-- Gives the weekday, counted from zero for Monday. -/
def giveWeekday (f : DateFields) (weekday : Int) : Except DateProblem DateFields := do
  return { f with weekday := ← give f.weekday weekday }

/-- Gives the month, counted from one. -/
def giveMonth (f : DateFields) (month : Int) : Except DateProblem DateFields := do
  return { f with month := ← give f.month (← within 1 12 month) }

/-- Gives the half of the day: zero before noon, one after it. -/
def giveHalfDay (f : DateFields) (half : Int) : Except DateProblem DateFields := do
  return { f with halfDay := ← give f.halfDay half }

/-- Gives the fraction of a second in nanoseconds. -/
def giveNanosecond (f : DateFields) (n : Int) : Except DateProblem DateFields := do
  return { f with nanosecond := ← give f.nanosecond (← within 0 999999999 n) }

/-- Gives the distance from universal time in seconds. -/
def giveOffset (f : DateFields) (seconds : Int) : Except DateProblem DateFields := do
  return { f with offset := ← give f.offset seconds }

/-- Gives the value of a part that is written as a number. -/
def giveNumber (f : DateFields) (field : NumericField) (value : Int) :
    Except DateProblem DateFields := do
  match field with
  | .year => return { f with year := ← give f.year (← within (-wordMax - 1) wordMax value) }
  | .century => return { f with century := ← give f.century (← within 0 wordMax value) }
  | .yearOfCentury =>
    return { f with yearOfCentury := ← give f.yearOfCentury (← within 0 99 value) }
  | .isoYear =>
    return { f with isoYear := ← give f.isoYear (← within (-wordMax - 1) wordMax value) }
  | .isoYearOfCentury =>
    return { f with isoYearOfCentury := ← give f.isoYearOfCentury (← within 0 99 value) }
  | .quarter => return { f with quarter := ← give f.quarter (← within 1 4 value) }
  | .month => f.giveMonth value
  | .day => return { f with day := ← give f.day (← within 1 31 value) }
  | .weekFromSunday =>
    return { f with weekFromSunday := ← give f.weekFromSunday (← within 0 53 value) }
  | .weekFromMonday =>
    return { f with weekFromMonday := ← give f.weekFromMonday (← within 0 53 value) }
  | .isoWeek => return { f with isoWeek := ← give f.isoWeek (← within 1 53 value) }
  | .weekdayFromSunday => f.giveWeekday (((← within 0 6 value) + 6) % 7)
  | .weekdayFromMonday => f.giveWeekday ((← within 1 7 value) - 1)
  | .dayOfYear => return { f with dayOfYear := ← give f.dayOfYear (← within 1 366 value) }
  | .hour =>
    let hour ← within 0 23 value
    let f ← f.giveHalfDay (hour / 12)
    return { f with hour12 := ← give f.hour12 (hour % 12) }
  | .hour12 => return { f with hour12 := ← give f.hour12 ((← within 1 12 value) % 12) }
  | .minute => return { f with minute := ← give f.minute (← within 0 59 value) }
  | .second => return { f with second := ← give f.second (← within 0 60 value) }
  | .nanosecond => f.giveNanosecond value
  | .timestamp => return { f with timestamp := ← give f.timestamp value }

/-- The year that a full year, a century and a year in the century determine together. A year in an
unknown century lies between 1970 and 2069. -/
def resolveYear (year century yearOfCentury : Option Int) : Except DateProblem (Option Int) :=
  match year, century, yearOfCentury with
  | year, none, none => .ok year
  | some y, q, r =>
    if 0 ≤ y ∧ q.getD (y / 100) = y / 100 ∧ r.getD (y % 100) = y % 100 then .ok (some y)
    else .error .contradiction
  | none, some q, some r =>
    if q * 100 + r ≤ wordMax then .ok (some (q * 100 + r)) else .error .outOfRange
  | none, none, some r => .ok (some (if r < 70 then r + 2000 else r + 1900))
  | none, some _, none => .error .undetermined

/-- The date in a week counted from the first weekday `start` of the year. -/
def weekDate (year : Int) (week weekday : Int) (start : Nat) : Except DateProblem Date := do
  let some _ := Date.ofDayOfYear? year 1 | throw .outOfRange
  let firstWeek : Int := 1 + Date.daysSince start (Date.weekdayOf year 1)
  let ordinal := firstWeek + (week - 1) * 7 + Date.daysSince weekday.toNat start
  if ordinal ≤ 0 then throw .contradiction
  match Date.ofDayOfYear? year ordinal.toNat with
  | some d => return d
  | none => throw .contradiction

/-- Whether a part that may have been given agrees with a value. -/
def agrees (given : Option Int) (value : Int) : Bool := given.all (· = value)

/-- Whether a century or a year in a century that may have been given agrees with a year. -/
def agreesInCentury (given : Option Int) (year value : Int) : Bool :=
  given.all fun v => 0 ≤ year && v = value

/-- Whether all parts that have been given agree with a date. -/
def matchesDate (f : DateFields) (d : Date) : Bool :=
  let (isoYear, isoWeek) := d.isoWeek
  agrees f.year d.year && agreesInCentury f.century d.year (d.year / 100) &&
    agreesInCentury f.yearOfCentury d.year (d.year % 100) &&
    agrees f.month d.month && agrees f.day d.day && agrees f.quarter d.quarter &&
    agrees f.isoYear isoYear && agreesInCentury f.isoYearOfCentury isoYear (isoYear % 100) &&
    agrees f.isoWeek isoWeek && agrees f.weekday d.weekday &&
    agrees f.dayOfYear d.dayOfYear && agrees f.weekFromSunday (d.weekFrom 6) &&
    agrees f.weekFromMonday (d.weekFrom 0)

/-- A date that may not exist. -/
def existing : Option Date → Except DateProblem Date
  | some d => .ok d
  | none => .error .outOfRange

/-- The date that the first sufficient group of parts determines. -/
def candidate (f : DateFields) : Except DateProblem Date := do
  let year ← resolveYear f.year f.century f.yearOfCentury
  let isoYear ← resolveYear f.isoYear none f.isoYearOfCentury
  match year, f.month, f.day with
  | some y, some m, some d => return ← existing (Date.ofMonthDay? y m.toNat d.toNat)
  | _, _, _ => pure ()
  match year, f.dayOfYear with
  | some y, some n => return ← existing (Date.ofDayOfYear? y n.toNat)
  | _, _ => pure ()
  match year, f.weekFromSunday, f.weekday with
  | some y, some w, some d => return ← weekDate y w d 6
  | _, _, _ => pure ()
  match year, f.weekFromMonday, f.weekday with
  | some y, some w, some d => return ← weekDate y w d 0
  | _, _, _ => pure ()
  match isoYear, f.isoWeek, f.weekday with
  | some y, some w, some d => existing (Date.ofIsoWeek? y w.toNat d.toNat)
  | _, _, _ => throw .undetermined

/-- The date that the parts determine, with which all of them agree. -/
def toDate (f : DateFields) : Except DateProblem Date := do
  let d ← f.candidate
  if f.matchesDate d then return d else throw .contradiction

end DateFields

end RecordScript
