/-!
# Dates

Dates of the proleptic Gregorian calendar, counted in days from 0001-01-01,
which has the number 1. Fields are integers without any range check; a date is
real where its year lies between 1 and 9999 and its day exists.
-/

namespace SqlDump

structure Date where
  year : Int
  month : Int
  day : Int
  deriving DecidableEq, Repr

namespace Calendar

/-- Whether February has 29 days. -/
def isLeap (year : Int) : Bool :=
  year % 4 = 0 && (year % 100 ≠ 0 || year % 400 = 0)

def monthLengths (year : Int) : List Int :=
  [31, if isLeap year then 29 else 28, 31, 30, 31, 30, 31, 31, 30, 31, 30, 31]

/-- The days of a month; none for a month outside 1 to 12. -/
def monthLength (year month : Int) : Int :=
  if 1 ≤ month then (monthLengths year)[(month - 1).toNat]?.getD 0 else 0

/-- The days before the first day of a month. -/
def daysBeforeMonth (year month : Int) : Int :=
  ((monthLengths year).take (month - 1).toNat).foldl (· + ·) 0

/-- The days from 0001-01-01 to the first day of a year. -/
def daysBeforeYear (year : Int) : Int :=
  let before := year - 1
  before * 365 + before / 4 - before / 100 + before / 400

def firstYear : Int := 1

def lastYear : Int := 9999

/-- The days of all years up to the last one. -/
def lastDayNumber : Int := 3652059

def daysOfFourCenturies : Int := 146097

/-- The days of a century that does not end in a leap year. -/
def daysOfCentury : Int := 36524

def daysOfFourYears : Int := 1461

/-- The month that holds a day, counted from zero in the rest of the year that
starts with `month`, and the day in it. -/
def monthAndDay (month : Int) : (lengths : List Int) → (day : Int) → Int × Int
  | [], day => (month, day + 1)
  | length :: lengths, day =>
      if day < length then (month, day + 1)
      else monthAndDay (month + 1) lengths (day - length)

end Calendar

namespace Date

def isReal (date : Date) : Bool :=
  Calendar.firstYear ≤ date.year && date.year ≤ Calendar.lastYear &&
    1 ≤ date.month && date.month ≤ 12 &&
    1 ≤ date.day && date.day ≤ Calendar.monthLength date.year date.month

/-- The number of a date in the count of days. -/
def dayNumber (date : Date) : Int :=
  Calendar.daysBeforeYear date.year + Calendar.daysBeforeMonth date.year date.month + date.day

/-- The date with a number in the count of days. -/
def ofDayNumber (number : Int) : Date :=
  let fourCenturies := (number - 1) / Calendar.daysOfFourCenturies
  let inFourCenturies := (number - 1) % Calendar.daysOfFourCenturies
  let centuries := min 3 (inFourCenturies / Calendar.daysOfCentury)
  let inCentury := inFourCenturies - centuries * Calendar.daysOfCentury
  let fourYears := inCentury / Calendar.daysOfFourYears
  let inFourYears := inCentury % Calendar.daysOfFourYears
  let years := min 3 (inFourYears / 365)
  let inYear := inFourYears - years * 365
  let year := fourCenturies * 400 + centuries * 100 + fourYears * 4 + years + 1
  let (month, day) := Calendar.monthAndDay 1 (Calendar.monthLengths year) inYear
  { year, month, day }

/-- The day of the week, counted from Monday as zero. -/
def weekday (date : Date) : Nat :=
  ((date.dayNumber - 1) % 7).toNat

end Date

end SqlDump
