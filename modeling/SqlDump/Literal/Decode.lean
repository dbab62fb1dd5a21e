import SqlDump.Literal.Escape
import SqlDump.Literal.Temporal
import SqlDump.Number.Scientific
import SqlDump.Text.Capital
import SqlDump.Text.Encoding

/-!
# Reading literals

A literal is NULL, a number, or a text between quotes. The kind of the column
decides what a quoted text becomes and whether a number is a floating point one;
without a kind a quoted text gives octets, a whole number an integer, and any
other number a double.
-/

namespace SqlDump.Literal

/-- Why a text is no literal. -/
inductive LiteralError where
  | empty
  | unterminated (shown : Text)
  | escape (error : EscapeError)
  | temporal (error : TemporalError)
  | integerOutOfRange (number : Int)
  | tooManyDigits (count : Nat)
  | invalid (shown : Text)
  /-- The content has symbols without octets. -/
  | unwritable (failure : Encoding.Unwritable)
  deriving DecidableEq, Repr

/-- The wording for an integer that 64 bits cannot hold. -/
def integerOutOfRangeMessage (number : Int) : Text :=
  text "Integer out of 64-bit range: " ++ Numeral.plain number

def LiteralError.message : LiteralError → Text
  | .empty => text "Empty literal"
  | .unterminated shown => text "Unterminated string literal: " ++ shown
  | .escape error => error.message
  | .temporal error => error.message
  | .integerOutOfRange number => integerOutOfRangeMessage number
  | .tooManyDigits count => (Numeral.Error.tooManyDigits count).message
  | .invalid shown => text "Invalid literal: " ++ shown
  | .unwritable failure => failure.message

/-- Whether an error says that the text is no literal. The exceptions are hours
with too many digits and content without octets, where the conversion itself
gives up. -/
def LiteralError.isRejection : LiteralError → Bool
  | .temporal (.numeral _) | .unwritable _ => false
  | _ => true

/-- The sign and the digits of a whole number. -/
def wholeNumber (literal : Text) : Option (Bool × List Digit) :=
  let (negative, body) :=
    match literal with
    | .char '-' :: rest => (true, rest)
    | .char '+' :: rest => (false, rest)
    | _ => (false, literal)
  match digitRun Symbol.digit? body with
  | ([], _) => none
  | (found, []) => some (negative, found)
  | (_, _ :: _) => none

def readInteger (negative : Bool) (found : List Digit) : Except LiteralError Value :=
  if Numeral.limit < found.length then .error (.tooManyDigits found.length)
  else
    let number := Numeral.signed negative found
    match WideInteger.ofInt? number with
    | some wide => .ok (.integer wide)
    | none => .error (.integerOutOfRange number)

/-- The floating point number of a literal, of the precision of the column. -/
def readFloat (kind : Option Kind) (literal : Text) : Except LiteralError Value :=
  match FloatNumeral.read literal with
  | none => .error (.invalid (Quoted.ofText literal))
  | some numeral =>
      .ok (if kind = some .float then .float numeral.nearest else .double numeral.nearest)

/-- Whether a column takes whole numbers for floating point ones. -/
def isFloatKind (kind : Option Kind) : Bool :=
  kind = some .float || kind = some .double

def readNumber (kind : Option Kind) (literal : Text) : Except LiteralError Value :=
  match wholeNumber literal with
  | some (negative, found) =>
      if isFloatKind kind then readFloat kind literal else readInteger negative found
  | none => readFloat kind literal

/-- The octets of a content. -/
def readOctets (content : Text) : Except LiteralError Value :=
  match Encoding.utf8.encode content with
  | .ok octets => .ok (.bytes octets)
  | .error failure => .error (.unwritable failure)

def readContent (kind : Option Kind) (content : Text) : Except LiteralError Value :=
  match kind with
  | some .dateTime =>
      match readMoment content with
      | .ok moment => .ok (.dateTime moment)
      | .error error => .error (.temporal error)
  | some .time =>
      match readSpan content with
      | .ok span => .ok (.time span)
      | .error error => .error (.temporal error)
  | _ => readOctets content

def readQuoted (kind : Option Kind) (quote : Symbol) (literal : Text) :
    Except LiteralError Value :=
  if literal.length < 2 ∨ literal.getLast? ≠ some quote then
    .error (.unterminated (Quoted.ofText literal))
  else
    match unescape quote literal.tail.dropLast with
    | .ok content => readContent kind content
    | .error error => .error (.escape error)

/-- The value of a text, which may have blanks around the literal. -/
def decode (kind : Option Kind) (content : Text) : Except LiteralError Value :=
  let literal := Text.strip content
  match literal with
  | [] => .error .empty
  | first :: _ =>
      if Text.capitals literal = text "NULL" then .ok .null
      else if first = .char '\'' ∨ first = .char '"' then readQuoted kind first literal
      else readNumber kind literal

end SqlDump.Literal
