import SqlDump.Client.Raw

/-!
# Temporal columns

The server sends dates and moments as octets. A column is read into a date or a
moment of the calendar where the calendar has it, and into a stored moment with
the same fields where it has not: zero dates, days that do not exist, hours
beyond the day. Only octets that do not have the shape of a column at all are
read as nothing.

The first of these readings belongs to `mysql.connector`, the client library: the
definitions for the calendar stand for its converter. Theorems about columns take any
reading that fulfils `FollowsCalendar` in its place, and these are one instance.
-/

namespace SqlDump.Client

/-- The temporal types of columns. -/
inductive TemporalColumn where
  | date
  | dateTime
  | timestamp
  deriving DecidableEq, Repr

/-- Why a column cannot be read. -/
inductive TemporalColumnError where
  /-- The octets have too few or too many parts. -/
  | notConvertible (shown : Text)
  /-- Two parts are expected, and there is only one. -/
  | onePart
  /-- Two parts are expected, and there are more. -/
  | manyParts
  | numeral (error : Numeral.Error)
  | tooFewNumbers (numbers : List Int)
  /-- A number fits no field of a calendar. -/
  | moment (error : MomentError)
  /-- The value is a text, and its separators are octets. -/
  | textParts
  /-- The value is neither octets nor a moment. -/
  | notOctets (typeName : String)
  deriving DecidableEq, Repr

def TemporalColumnError.message : TemporalColumnError → Text
  | .notConvertible shown =>
      text "Could not convert " ++ shown ++ text " to python datetime.timedelta"
  | .onePart => text "not enough values to unpack (expected 2, got 1)"
  | .manyParts => text "too many values to unpack (expected 2)"
  | .numeral error => error.message
  | .tooFewNumbers numbers =>
      text "invalid datetime format: [" ++ (text ", ").intercalate (numbers.map Numeral.plain) ++
        text "] len: " ++ Digit.text (digits numbers.length)
  | .moment error => error.message
  | .textParts => text "must be str or None, not bytes"
  | .notOctets typeName => text "'" ++ text typeName ++ text "' object has no attribute 'split'"

namespace TemporalColumn

/-! ## Columns by their fields -/

/-- Exactly `count` digits at the beginning of octets, and what follows them. -/
def exactly (count : Nat) (octets : Octets) : Option (List Digit × Octets) := do
  let found ← (octets.take count).mapM octetDigit?
  if found.length = count then some (found, octets.drop count) else none

/-- What follows a separator. -/
def behind (separator : UInt8) : Octets → Option Octets
  | [] => none
  | octet :: rest => if octet = separator then some rest else none

/-- The number of an exact count of digits. -/
def number (count : Nat) (octets : Octets) : Option (Int × Octets) := do
  let (found, rest) ← exactly count octets
  some (Digit.value found, rest)

/-- The microseconds at the end of octets: none, or a point and one to six digits. -/
def fraction (octets : Octets) : Option Int :=
  if octets.isEmpty then some 0
  else do
    let rest ← behind 0x2E octets
    let (found, rest) := digitRun octetDigit? rest
    if rest.isEmpty ∧ 1 ≤ found.length ∧ found.length ≤ 6 then
      some (Digit.value (found ++ Digit.zeros (6 - found.length)))
    else none

/-- The fields of a column whose octets are a date, or a date and a clock, with
every field in its full width. -/
def fields? (octets : Octets) : Option Moment := do
  let trimmed := trimBoth isBlankOctet octets
  let (year, rest) ← number 4 trimmed
  let (month, rest) ← number 2 (← behind 0x2D rest)
  let (day, rest) ← number 2 (← behind 0x2D rest)
  if rest.isEmpty then some { year, month, day }
  else
    let (hour, rest) ← number 2 (← behind 0x20 rest)
    let (minute, rest) ← number 2 (← behind 0x3A rest)
    let (second, rest) ← number 2 (← behind 0x3A rest)
    let microsecond ← fraction rest
    some { year, month, day, hour, minute, second, microsecond }

/-! ## Columns of the calendar -/

/-- The two parts on the two sides of a separator. -/
def twoParts (separator : UInt8) (octets : Octets) :
    Except TemporalColumnError (Octets × Octets) :=
  match octets.splitOn separator with
  | [left, right] => .ok (left, right)
  | _ :: _ :: _ => .error .manyParts
  | _ => .error .onePart

def numbers (separator : UInt8) (octets : Octets) : Except TemporalColumnError (List Int) :=
  match Numeral.ofEachOctets (octets.splitOn separator) with
  | .ok found => .ok found
  | .error error => .error (.numeral error)

/-- Whether an error says that a field does not fit a machine word. -/
def isWordError : MomentError → Bool
  | .fieldTooLarge | .fieldTooSmall | .fieldTooWide => true
  | _ => false

/-- A moment of the calendar, nothing where the calendar has none. -/
def ofCalendar (moment : Moment) : Except TemporalColumnError (Option Moment) :=
  match moment.check with
  | .ok moment => .ok (some moment)
  | .error error => if isWordError error then .error (.moment error) else .ok none

/-- The date of the calendar in octets with two dashes, as the converter of the client library
reads it. `shown` is their quoted display. -/
def calendarDate (shown : Text) (octets : Octets) : Except TemporalColumnError (Option Date) :=
  let parts := octets.splitOn 0x2D
  if parts.length ≠ 3 then .error (.notConvertible shown)
  else
    match Numeral.ofEachOctets parts with
    | .ok [year, month, day] => do
        let found ← ofCalendar { year, month, day }
        return found.map Moment.date
    | _ => .ok none

/-- The clock in octets, with the fraction that clocks longer than eight octets have. -/
def clockParts (octets : Octets) : Except TemporalColumnError (Octets × Int) :=
  if octets.length ≤ 8 then .ok (octets, 0)
  else do
    let (clock, fraction) ← twoParts 0x2E octets
    match Numeral.ofOctets (fraction ++ List.replicate (6 - fraction.length) 0x30) with
    | .ok microsecond => return (clock, microsecond)
    | .error error => .error (.numeral error)

/-- The moment of the calendar with the given fields, from the year on. A moment
has at most seven fields. -/
def ofNumbers (shown : Text) : List Int → Except TemporalColumnError (Option Moment)
  | [year, month, day, hour, minute, second] =>
      ofCalendar { year, month, day, hour, minute, second }
  | [year, month, day, hour, minute, second, microsecond] =>
      ofCalendar { year, month, day, hour, minute, second, microsecond }
  | [year, month, day, hour, minute, second, microsecond, _] => do
      match ← ofCalendar { year, month, day, hour, minute, second, microsecond } with
      | some _ => .error (.notConvertible shown)
      | none => return none
  | found =>
      if found.length < 6 then .error (.tooFewNumbers found) else .error (.notConvertible shown)

/-- The moment of the calendar in octets with one space, as the converter of the client library
reads it. `shown` is their quoted display. -/
def calendarMoment (shown : Text) (octets : Octets) :
    Except TemporalColumnError (Option Moment) := do
  let (front, back) ← twoParts 0x20 octets
  let (clock, microsecond) ← clockParts back
  let dateNumbers ← numbers 0x2D front
  let clockNumbers ← numbers 0x3A clock
  ofNumbers shown (dateNumbers ++ clockNumbers ++ [microsecond])

/-- The value of the calendar in a column. It stands for the converter of the client library, of
which only `FollowsCalendar` is relied on. -/
def calendarValue (column : TemporalColumn) (shown : Text) (octets : Octets) :
    Except TemporalColumnError (Option Raw) :=
  match column with
  | .date => return (← calendarDate shown octets).map .date
  | .dateTime | .timestamp => return (← calendarMoment shown octets).map (.moment · none)

/-- What a column has that the calendar has not: the fields as they are, or nothing. -/
def storedValue (octets : Octets) : Raw :=
  match fields? octets with
  | some moment => .stored (.dateTime moment)
  | none => .nothing

/-- The value of the octets of a column. -/
def readOctets (column : TemporalColumn) (shown : Text) (octets : Octets) :
    Except TemporalColumnError Raw := do
  match ← column.calendarValue shown octets with
  | some value => return value
  | none => return storedValue octets

/-- The value of a column that may have been read already. -/
def read (column : TemporalColumn) (raw : Raw) : Except TemporalColumnError Raw :=
  match raw.plain, column with
  | .octets .plain octets, _ => column.readOctets (Quoted.ofOctets octets) octets
  | .octets .buffer octets, _ =>
      column.readOctets (text "bytearray(" ++ Quoted.ofOctets octets ++ text ")") octets
  | .moment _ _, _ => .ok raw
  | .date _, .date => .ok raw
  | .text _, _ => .error .textParts
  | _, _ => .error (.notOctets raw.fullTypeName)

end TemporalColumn

end SqlDump.Client
