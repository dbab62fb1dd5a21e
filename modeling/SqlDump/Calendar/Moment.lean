import SqlDump.Calendar.Date
import SqlDump.Number.Numeral

/-!
# Moments

A moment is a date with a wall clock time. Its fields are not checked, because
the server stores dates that no calendar has; `check` says which field a calendar
refuses first. A real moment has a place on the line of microseconds and can be
moved by a UTC offset.
-/

namespace SqlDump

/-- A date and a wall clock time with a fraction in microseconds. -/
structure Moment where
  year : Int
  month : Int
  day : Int
  hour : Int := 0
  minute : Int := 0
  second : Int := 0
  microsecond : Int := 0
  deriving DecidableEq, Repr

/-- Why fields are no moment of the calendar. -/
inductive MomentError where
  | year (value : Int)
  | month
  | day
  | hour
  | minute
  | second
  | microsecond
  /-- A field above the 32-bit range. -/
  | fieldTooLarge
  /-- A field below the 32-bit range. -/
  | fieldTooSmall
  /-- A field outside the 64-bit range. -/
  | fieldTooWide
  /-- A moved moment outside the years 1 to 9999. -/
  | outOfCalendar
  deriving DecidableEq, Repr

def MomentError.message : MomentError → Text
  | .year value => text "year " ++ Numeral.plain value ++ text " is out of range"
  | .month => text "month must be in 1..12"
  | .day => text "day is out of range for month"
  | .hour => text "hour must be in 0..23"
  | .minute => text "minute must be in 0..59"
  | .second => text "second must be in 0..59"
  | .microsecond => text "microsecond must be in 0..999999"
  | .fieldTooLarge => text "signed integer is greater than maximum"
  | .fieldTooSmall => text "signed integer is less than minimum"
  | .fieldTooWide => text "Python int too large to convert to C long"
  | .outOfCalendar => text "date value out of range"

namespace Moment

def date (moment : Moment) : Date :=
  { year := moment.year, month := moment.month, day := moment.day }

/-- The first moment of a date. -/
def ofDate (date : Date) : Moment :=
  { year := date.year, month := date.month, day := date.day }

/-- The fields from the longest unit to the shortest. -/
def fields (moment : Moment) : List Int :=
  [moment.year, moment.month, moment.day, moment.hour, moment.minute, moment.second,
    moment.microsecond]

/-- The moment with the given fields from the longest unit to the shortest; those that
are missing are zero. -/
def ofFields (fields : List Int) : Moment :=
  let field (place : Nat) : Int := fields[place]?.getD 0
  { year := field 0, month := field 1, day := field 2, hour := field 3, minute := field 4
    second := field 5, microsecond := field 6 }

@[simp] theorem ofFields_fields (moment : Moment) : ofFields moment.fields = moment := rfl

def hasClock (moment : Moment) : Bool :=
  0 ≤ moment.hour && moment.hour ≤ 23 && 0 ≤ moment.minute && moment.minute ≤ 59 &&
    0 ≤ moment.second && moment.second ≤ 59 &&
    0 ≤ moment.microsecond && moment.microsecond ≤ 999999

def isReal (moment : Moment) : Bool :=
  moment.date.isReal && moment.hasClock

/-- The machine word that a field does not fit, if any. -/
def wordError? (field : Int) : Option MomentError :=
  if field < -0x8000000000000000 ∨ 0x7FFFFFFFFFFFFFFF < field then some .fieldTooWide
  else if field < -0x80000000 then some .fieldTooSmall
  else if 0x7FFFFFFF < field then some .fieldTooLarge
  else none

def dateError? (date : Date) : Option MomentError :=
  if ¬(Calendar.firstYear ≤ date.year ∧ date.year ≤ Calendar.lastYear) then some (.year date.year)
  else if ¬(1 ≤ date.month ∧ date.month ≤ 12) then some .month
  else if ¬(1 ≤ date.day ∧ date.day ≤ Calendar.monthLength date.year date.month) then some .day
  else none

def clockError? (moment : Moment) : Option MomentError :=
  if ¬(0 ≤ moment.hour ∧ moment.hour ≤ 23) then some .hour
  else if ¬(0 ≤ moment.minute ∧ moment.minute ≤ 59) then some .minute
  else if ¬(0 ≤ moment.second ∧ moment.second ≤ 59) then some .second
  else if ¬(0 ≤ moment.microsecond ∧ moment.microsecond ≤ 999999) then some .microsecond
  else none

/-- A moment of the calendar, or what is wrong with it: first a field that fits no
machine word, then a field out of its range. -/
def check (moment : Moment) : Except MomentError Moment :=
  match moment.fields.findSome? wordError? with
  | some error => .error error
  | none =>
      match dateError? moment.date with
      | some error => .error error
      | none =>
          match moment.clockError? with
          | some error => .error error
          | none => .ok moment

def perSecond : Int := 1000000

def secondsPerDay : Int := 86400

/-- The seconds since midnight. -/
def secondOfDay (moment : Moment) : Int :=
  moment.hour * 3600 + moment.minute * 60 + moment.second

/-- The microseconds from the first moment of the calendar. -/
def instant (moment : Moment) : Int :=
  ((moment.date.dayNumber - 1) * secondsPerDay + moment.secondOfDay) * perSecond +
    moment.microsecond

/-- The moment that many microseconds after the first moment of the calendar. -/
def ofInstant (instant : Int) : Moment :=
  let seconds := instant / perSecond
  let date := Date.ofDayNumber (seconds / secondsPerDay + 1)
  let inDay := seconds % secondsPerDay
  { year := date.year, month := date.month, day := date.day
    hour := inDay / 3600, minute := inDay / 60 % 60, second := inDay % 60
    microsecond := instant % perSecond }

/-- The instant of a local moment that is `offset` seconds ahead of UTC. -/
def instantAt (moment : Moment) (offset : Int) : Int :=
  moment.instant - offset * perSecond

/-- The UTC moment of a local one that is `offset` seconds ahead of UTC. -/
def toUtc (moment : Moment) (offset : Int) : Except MomentError Moment :=
  let instant := moment.instantAt offset
  if 0 ≤ instant ∧ instant < Calendar.lastDayNumber * secondsPerDay * perSecond then
    .ok (ofInstant instant)
  else .error .outOfCalendar

/-- A date with dashes between its fields. -/
def displayDate (date : Date) : Text :=
  Numeral.padded 4 date.year ++ text "-" ++ Numeral.padded 2 date.month ++ text "-" ++
    Numeral.padded 2 date.day

/-- A clock time with colons, and its fraction where it has one. -/
def displayClock (hour minute second microsecond : Int) : Text :=
  Numeral.padded 2 hour ++ text ":" ++ Numeral.padded 2 minute ++ text ":" ++
    Numeral.padded 2 second ++
    (if microsecond = 0 then [] else text "." ++ Numeral.padded 6 microsecond)

/-- A UTC offset with a colon, and its seconds where it has some. -/
def displayOffset (offset : Int) : Text :=
  let size : Int := offset.natAbs
  text (if offset < 0 then "-" else "+") ++ Numeral.padded 2 (size / 3600) ++ text ":" ++
    Numeral.padded 2 (size / 60 % 60) ++
    (if size % 60 = 0 then [] else text ":" ++ Numeral.padded 2 (size % 60))

/-- A moment with a space between date and clock, and its UTC offset where it has one. -/
def display (moment : Moment) (offset : Option Int) : Text :=
  displayDate moment.date ++ text " " ++
    displayClock moment.hour moment.minute moment.second moment.microsecond ++
    (offset.map displayOffset).getD []

end Moment

end SqlDump
