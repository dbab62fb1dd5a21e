import SqlDump.Calendar.Duration
import SqlDump.Calendar.Moment
import SqlDump.Number.Binary64

/-!
# Stored values

The values of a row as the dump knows them. The set is closed: the server's NULL,
integers of 64 bits with or without sign, floating point numbers of two
precisions, octets for text and binary columns, moments, and signed time spans.
-/

namespace SqlDump

/-- The kinds of stored values. -/
inductive Kind where
  | null
  | integer
  | float
  | double
  | bytes
  | dateTime
  | time
  deriving DecidableEq, Repr

/-- An integer that fits 64 bits, with or without sign. -/
structure WideInteger where
  number : Int
  inRange : -0x8000000000000000 ≤ number ∧ number ≤ 0xFFFFFFFFFFFFFFFF
  deriving DecidableEq, Repr

/-- The integer, where it fits. -/
def WideInteger.ofInt? (number : Int) : Option WideInteger :=
  if inRange : -0x8000000000000000 ≤ number ∧ number ≤ 0xFFFFFFFFFFFFFFFF then
    some { number, inRange }
  else none

@[simp] theorem WideInteger.ofInt?_number (wide : WideInteger) :
    ofInt? wide.number = some wide := by
  rw [ofInt?, dif_pos wide.inRange]

/-- A time span whose sign stands apart from its fields. -/
structure TimeSpan where
  negative : Bool
  days : Int
  hours : Int
  minutes : Int
  seconds : Int
  microseconds : Int := 0
  deriving DecidableEq, Repr

namespace TimeSpan

/-- The hours of a span with its days folded in. -/
def totalHours (span : TimeSpan) : Int :=
  span.days * 24 + span.hours

/-- The microseconds of a span without its sign. -/
def magnitude (span : TimeSpan) : Int :=
  span.days * Duration.microsecondsPerDay + span.hours * 3600000000 + span.minutes * 60000000 +
    span.seconds * 1000000 + span.microseconds

/-- The duration of a span. The magnitude has to be one as well as its opposite. -/
def toDuration (span : TimeSpan) : Except DurationError Duration :=
  match Duration.ofTotal span.magnitude with
  | .error error => .error error
  | .ok size => if span.negative then size.negate else .ok size

/-- The span of a clock time or of the part of a duration below a day. -/
def ofSeconds (negative : Bool) (days seconds microseconds : Int) : TimeSpan :=
  { negative, days, hours := seconds / 3600, minutes := seconds % 3600 / 60
    seconds := seconds % 60, microseconds }

/-- The span of a duration: its sign, and the fields of its size. -/
def ofDuration (duration : Duration) : TimeSpan :=
  let size : Int := duration.total.natAbs
  let rest := size % Duration.microsecondsPerDay
  ofSeconds (duration.total < 0) (size / Duration.microsecondsPerDay) (rest / 1000000)
    (rest % 1000000)

end TimeSpan

/-- A stored value. -/
inductive Value where
  | null
  | integer (number : WideInteger)
  | float (number : Binary64)
  | double (number : Binary64)
  | bytes (octets : Octets)
  | dateTime (moment : Moment)
  | time (span : TimeSpan)
  deriving DecidableEq, Repr

namespace Value

def kind : Value → Kind
  | .null => .null
  | .integer _ => .integer
  | .float _ => .float
  | .double _ => .double
  | .bytes _ => .bytes
  | .dateTime _ => .dateTime
  | .time _ => .time

/-- Equality of values, which compares numbers and not their bits. -/
def equals : Value → Value → Bool
  | .float left, .float right => left.equals right
  | .double left, .double right => left.equals right
  | left, right => left = right

end Value

end SqlDump
