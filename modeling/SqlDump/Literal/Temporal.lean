import SqlDump.Number.Numeral
import SqlDump.Value

/-!
# Moments and time spans in literals

A moment is written with all its fields; a reader also takes shorter fields, a T
between date and clock, a missing clock and a short or missing fraction. A time
span is written with its days folded into the hours. One newline may follow
either. Fields are runs of decimal digits, and nothing but the separators
stands between them.
-/

namespace SqlDump.Literal

/-- Why the content of a literal is no moment or time span. -/
inductive TemporalError where
  | invalidMoment (shown : Text)
  | momentOutOfRange (shown : Text)
  | invalidSpan (shown : Text)
  | spanOutOfRange (shown : Text)
  /-- The hours have too many digits. -/
  | numeral (error : Numeral.Error)
  deriving DecidableEq, Repr

def TemporalError.message : TemporalError → Text
  | .invalidMoment shown => text "Invalid DATETIME literal: " ++ shown
  | .momentOutOfRange shown => text "DATETIME literal out of range: " ++ shown
  | .invalidSpan shown => text "Invalid TIME literal: " ++ shown
  | .spanOutOfRange shown => text "TIME literal out of range: " ++ shown
  | .numeral error => error.message

/-- The digits of a field and what follows it; the field has between `least` and
`most` digits. -/
def field (least most : Nat) (content : Text) : Option (List Digit × Text) :=
  let (found, rest) := digitRun Symbol.digit? content
  if least ≤ found.length ∧ found.length ≤ most then some (found, rest) else none

/-- What follows a separator. -/
def after (separator : Char) : Text → Option Text
  | [] => none
  | symbol :: rest => if symbol = .char separator then some rest else none

/-- Whether a content has come to its end, up to one newline. -/
def isEnd (content : Text) : Bool :=
  content = [] || content = [.char '\n']

/-- The microseconds that the digits of a fraction stand for. -/
def microseconds (fraction : List Digit) : Int :=
  Digit.value (fraction ++ Digit.zeros (6 - fraction.length))

/-- The fraction at the end of a content: none, or a point and up to six digits. -/
def endFraction (content : Text) : Option (List Digit) :=
  if isEnd content then some []
  else do
    let (fraction, rest) ← field 1 6 (← after '.' content)
    if isEnd rest then some fraction else none

/-- A date with two dashes, and what follows it. -/
def dateFields (content : Text) : Option (Date × Text) := do
  let (year, rest) ← field 4 4 content
  let (month, rest) ← field 1 2 (← after '-' rest)
  let (day, rest) ← field 1 2 (← after '-' rest)
  some ({ year := Digit.value year, month := Digit.value month, day := Digit.value day }, rest)

/-- The minutes, the seconds and the fraction at the end of a content. -/
def endClock (content : Text) : Option (Int × Int × Int) := do
  let (minute, rest) ← field 1 2 content
  let (second, rest) ← field 1 2 (← after ':' rest)
  let fraction ← endFraction rest
  some (Digit.value minute, Digit.value second, microseconds fraction)

/-- The fields of a moment, whatever their values. -/
def momentFields (content : Text) : Option Moment := do
  let (date, rest) ← dateFields content
  if isEnd rest then some (.ofDate date)
  else
    let (hour, rest) ← field 1 2 (← after ' ' rest <|> after 'T' rest)
    let (minute, second, microsecond) ← endClock (← after ':' rest)
    some { Moment.ofDate date with hour := Digit.value hour, minute, second, microsecond }

/-- Whether the server stores a date: a real one, or one with a zero among its
parts and no part beyond the longest month. -/
def isStorableDate (date : Date) : Bool :=
  if date.year = 0 ∨ date.month = 0 ∨ date.day = 0 then date.month ≤ 12 && date.day ≤ 31
  else date.isReal

/-- Whether fields that are not negative are those of a stored moment. -/
def isStorable (moment : Moment) : Bool :=
  moment.hour ≤ 23 && moment.minute ≤ 59 && moment.second ≤ 59 && isStorableDate moment.date

/-- The moment that the content of a literal stands for. -/
def readMoment (content : Text) : Except TemporalError Moment :=
  match momentFields content with
  | none => .error (.invalidMoment (Quoted.ofText content))
  | some moment =>
      if isStorable moment then .ok moment
      else .error (.momentOutOfRange (Quoted.ofText content))

/-- The sign, the hours, the minutes, the seconds and the fraction of a span. -/
def spanFields (content : Text) : Option (Bool × List Digit × Int × Int × Int) := do
  let (negative, rest) :=
    match content with
    | .char '-' :: rest => (true, rest)
    | _ => (false, content)
  match digitRun Symbol.digit? rest with
  | ([], _) => none
  | (hours, rest) =>
      let (minutes, seconds, fraction) ← endClock (← after ':' rest)
      some (negative, hours, minutes, seconds, fraction)

/-- The time span that the content of a literal stands for. -/
def readSpan (content : Text) : Except TemporalError TimeSpan :=
  match spanFields content with
  | none => .error (.invalidSpan (Quoted.ofText content))
  | some (negative, hours, minutes, seconds, microseconds) =>
      if 59 < minutes ∨ 59 < seconds then .error (.spanOutOfRange (Quoted.ofText content))
      else if Numeral.limit < hours.length then .error (.numeral (.tooManyDigits hours.length))
      else
        let total : Int := Digit.value hours
        .ok { negative, days := total / 24, hours := total % 24, minutes, seconds, microseconds }

def ofMoment (moment : Moment) : Except Numeral.Error Text := do
  let year ← Numeral.ofIntPadded 4 moment.year
  let month ← Numeral.ofIntPadded 2 moment.month
  let day ← Numeral.ofIntPadded 2 moment.day
  let hour ← Numeral.ofIntPadded 2 moment.hour
  let minute ← Numeral.ofIntPadded 2 moment.minute
  let second ← Numeral.ofIntPadded 2 moment.second
  let microsecond ← Numeral.ofIntPadded 6 moment.microsecond
  return text "'" ++ year ++ text "-" ++ month ++ text "-" ++ day ++ text " " ++ hour ++
    text ":" ++ minute ++ text ":" ++ second ++ text "." ++ microsecond ++ text "'"

def ofSpan (span : TimeSpan) : Except Numeral.Error Text := do
  let hours ← Numeral.ofInt span.totalHours
  let minutes ← Numeral.ofIntPadded 2 span.minutes
  let seconds ← Numeral.ofIntPadded 2 span.seconds
  let microseconds ← Numeral.ofIntPadded 6 span.microseconds
  return text "'" ++ text (if span.negative then "-" else "") ++ hours ++ text ":" ++ minutes ++
    text ":" ++ seconds ++ text "." ++ microseconds ++ text "'"

end SqlDump.Literal
