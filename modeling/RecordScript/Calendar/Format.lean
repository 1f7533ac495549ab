import RecordScript.Unicode.WhiteSpace

/-!
# Formats of dates

A format is a text in which a percent sign and a letter stand for a part of a date, and everything
else for itself. It is cut into items before any date is read.
-/

namespace RecordScript

/-- A part of a date or time that is written as a number. -/
inductive NumericField where
  | year
  | century
  | yearOfCentury
  | isoYear
  | isoYearOfCentury
  | quarter
  | month
  | day
  | weekFromSunday
  | weekFromMonday
  | isoWeek
  | weekdayFromSunday
  | weekdayFromMonday
  | dayOfYear
  | hour
  | hour12
  | minute
  | second
  | nanosecond
  | timestamp
deriving DecidableEq, Repr

namespace NumericField

/-- The most digits of the field where it has no sign; `none` is no limit. -/
def width : NumericField → Option Nat
  | year | isoYear => some 4
  | dayOfYear => some 3
  | quarter | weekdayFromSunday | weekdayFromMonday => some 1
  | nanosecond => some 9
  | timestamp => none
  | _ => some 2

/-- Whether the field may have a sign. -/
def isSigned : NumericField → Bool
  | year | isoYear => true
  | _ => false

end NumericField

/-- An item of a date format. -/
inductive DateItem where
  | literal (text : List Char)
  | space
  | number (field : NumericField)
  | monthName (long : Bool)
  | weekdayName (long : Bool)
  | halfDay
  | fraction
  | fixedFraction (digits : Nat)
  | zoneName
  | zoneOffset (permissive : Bool)
  | fullTimestamp
  | bad
deriving DecidableEq, Repr

namespace DateItem

/-- Items for the month, the day and the year in two digits, between slashes. -/
def monthDayYear : List DateItem :=
  [number .month, literal ['/'], number .day, literal ['/'], number .yearOfCentury]

/-- Items for the hours and the minutes. -/
def hourMinute : List DateItem := [number .hour, literal [':'], number .minute]

/-- Items for the hours, the minutes and the seconds. -/
def hourMinuteSecond : List DateItem := hourMinute ++ [literal [':'], number .second]

/-- Items for the time of a day in two halves. -/
def halfDayTime : List DateItem :=
  [number .hour12, literal [':'], number .minute, literal [':'], number .second, space, halfDay]

/-- Items for the names of the weekday and the month, the day, the time and the year. -/
def longTimestamp : List DateItem :=
  [weekdayName false, space, monthName false, space, number .day, space] ++
    hourMinuteSecond ++ [space, number .year]

/-- The items that one letter after a percent sign stands for. -/
def ofLetter : Char → List DateItem
  | 'A' => [weekdayName true]
  | 'B' => [monthName true]
  | 'C' => [number .century]
  | 'D' | 'x' => monthDayYear
  | 'F' => [number .year, literal ['-'], number .month, literal ['-'], number .day]
  | 'G' => [number .isoYear]
  | 'H' | 'k' => [number .hour]
  | 'I' | 'l' => [number .hour12]
  | 'M' => [number .minute]
  | 'P' | 'p' => [halfDay]
  | 'R' => hourMinute
  | 'S' => [number .second]
  | 'T' | 'X' => hourMinuteSecond
  | 'U' => [number .weekFromSunday]
  | 'V' => [number .isoWeek]
  | 'W' => [number .weekFromMonday]
  | 'Y' => [number .year]
  | 'Z' => [zoneName]
  | 'a' => [weekdayName false]
  | 'b' | 'h' => [monthName false]
  | 'c' => longTimestamp
  | 'd' | 'e' => [number .day]
  | 'f' => [number .nanosecond]
  | 'g' => [number .isoYearOfCentury]
  | 'j' => [number .dayOfYear]
  | 'm' => [number .month]
  | 'n' | 't' => [space]
  | 'q' => [number .quarter]
  | 'r' => halfDayTime
  | 's' => [number .timestamp]
  | 'u' => [number .weekdayFromMonday]
  | 'v' => [number .day, literal ['-'], monthName false, literal ['-'], number .year]
  | 'w' => [number .weekdayFromSunday]
  | 'y' => [number .yearOfCentury]
  | 'z' => [zoneOffset false]
  | '+' => [fullTimestamp]
  | '%' => [literal ['%']]
  | _ => [bad]

/-- The items of the specifier after a percent sign, with what follows it in the format. -/
def ofSpecifier : List Char → List DateItem × List Char
  | ':' :: ':' :: ':' :: 'z' :: cs => ([zoneOffset false], cs)
  | ':' :: ':' :: 'z' :: cs => ([zoneOffset false], cs)
  | ':' :: 'z' :: cs => ([zoneOffset false], cs)
  | '#' :: 'z' :: cs => ([zoneOffset true], cs)
  | '.' :: 'f' :: cs => ([fraction], cs)
  | '.' :: d :: 'f' :: cs => (if d = '3' ∨ d = '6' ∨ d = '9' then [fraction] else [bad], cs)
  | '3' :: 'f' :: cs => ([fixedFraction 3], cs)
  | '6' :: 'f' :: cs => ([fixedFraction 6], cs)
  | '9' :: 'f' :: cs => ([fixedFraction 9], cs)
  | c :: d :: cs =>
    if c = '-' ∨ c = '0' ∨ c = '_' then
      match ofLetter d with
      | [number field] => ([number field], cs)
      | _ => ([bad], cs)
    else (ofLetter c, d :: cs)
  | [c] => (ofLetter c, [])
  | [] => ([bad], [])

/-- The items of a format, found in at most `fuel` steps. -/
def ofFormatWithin : Nat → List Char → List DateItem
  | 0, _ | _, [] => []
  | fuel + 1, '%' :: cs =>
    let (items, rest) := ofSpecifier cs
    items ++ ofFormatWithin fuel rest
  | fuel + 1, c :: cs =>
    if Unicode.isWhiteSpace c then
      space :: ofFormatWithin fuel (cs.dropWhile Unicode.isWhiteSpace)
    else
      let isLiteral := fun c => !Unicode.isWhiteSpace c && c ≠ '%'
      literal (c :: cs.takeWhile isLiteral) :: ofFormatWithin fuel (cs.dropWhile isLiteral)

/-- The items of a format. -/
def ofFormat (format : String) : List DateItem :=
  let cs := format.toList
  ofFormatWithin cs.length cs

end DateItem

end RecordScript
