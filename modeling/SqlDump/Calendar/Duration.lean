import SqlDump.Number.Numeral

/-!
# Durations

A duration is a number of days, seconds and microseconds in normal form: seconds
and microseconds are not negative and less than a day and a second, so that the
days alone carry the sign. Its days stay below one thousand million.
-/

namespace SqlDump

/-- A duration in normal form. -/
structure Duration where
  days : Int
  seconds : Int
  microseconds : Int
  deriving DecidableEq, Repr

/-- Why a number of microseconds is no duration. -/
inductive DurationError where
  | tooManyDays (days : Int)
  /-- The days are outside the 32-bit range. -/
  | daysTooWide
  deriving DecidableEq, Repr

def DurationError.message : DurationError → Text
  | .tooManyDays days =>
      text "days=" ++ Numeral.plain days ++ text "; must have magnitude <= 999999999"
  | .daysTooWide => text "Python int too large to convert to C int"

namespace Duration

/-- The most days of a duration, of either sign. -/
def mostDays : Int := 999999999

def microsecondsPerDay : Int := 86400000000

def total (duration : Duration) : Int :=
  duration.days * microsecondsPerDay + duration.seconds * 1000000 + duration.microseconds

/-- Whether a duration is in normal form and has few enough days. -/
def isNormal (duration : Duration) : Bool :=
  -mostDays ≤ duration.days && duration.days ≤ mostDays &&
    0 ≤ duration.seconds && duration.seconds < 86400 &&
    0 ≤ duration.microseconds && duration.microseconds < 1000000

def ofTotal (total : Int) : Except DurationError Duration :=
  let days := total / microsecondsPerDay
  let rest := total % microsecondsPerDay
  if days < -0x80000000 ∨ 0x7FFFFFFF < days then .error .daysTooWide
  else if days < -mostDays ∨ mostDays < days then .error (.tooManyDays days)
  else .ok { days, seconds := rest / 1000000, microseconds := rest % 1000000 }

def negate (duration : Duration) : Except DurationError Duration :=
  ofTotal (-duration.total)

/-- A duration in words for the days and a clock for the rest. -/
def display (duration : Duration) : Text :=
  let days :=
    if duration.days = 0 then []
    else
      Numeral.plain duration.days ++
        text (if duration.days.natAbs = 1 then " day, " else " days, ")
  days ++ Numeral.plain (duration.seconds / 3600) ++ text ":" ++
    Numeral.padded 2 (duration.seconds / 60 % 60) ++ text ":" ++
    Numeral.padded 2 (duration.seconds % 60) ++
    (if duration.microseconds = 0 then [] else text "." ++ Numeral.padded 6 duration.microseconds)

end Duration

end SqlDump
