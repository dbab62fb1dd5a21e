import SqlDump.Literal.Escape
import SqlDump.Literal.Temporal
import SqlDump.Number.Shortest

/-!
# Writing literals and rows

A stored value is written as a literal that can stand in a VALUES clause. Octets
are quoted, moments and time spans are quoted without escapes, and floating point
numbers have a point and no exponent. Rows are parenthesised lists, one a line.
-/

namespace SqlDump.Literal

/-- The literal of a value. Fields of moments and time spans with too many digits
cannot be written. -/
def encode : Value → Except Numeral.Error Text
  | .null => .ok (text "NULL")
  | .integer wide => .ok (Numeral.plain wide.number)
  | .float number => .ok number.positional
  | .double number => .ok number.positional
  | .bytes octets => .ok (ofOctets octets)
  | .dateTime moment => ofMoment moment
  | .time span => ofSpan span

/-- What stands between the values of a row. -/
def valueSeparator : Text := text ", "

/-- What stands between rows. -/
def rowSeparator : Text := text ",\n"

/-- What closes the last row. -/
def rowsTerminator : Text := text ";\n\n"

def joinRow (literals : List Text) : Text :=
  .char '(' :: valueSeparator.intercalate literals ++ [.char ')']

/-- The text of rows; no rows have no text. -/
def joinRows : List Text → Text
  | [] => []
  | rows => rowSeparator.intercalate rows ++ rowsTerminator

def encodeRow (values : List Value) : Except Numeral.Error Text := do
  return joinRow (← values.mapM encode)

def encodeRows (rows : List (List Value)) : Except Numeral.Error Text := do
  return joinRows (← rows.mapM encodeRow)

end SqlDump.Literal
