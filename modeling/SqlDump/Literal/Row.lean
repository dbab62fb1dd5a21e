import SqlDump.Adapter.Standard
import SqlDump.Literal.Encode

/-!
# Rows of client values

Client values are adapted and written one by one, so that of several values that
cannot be written the first one decides about the error.
-/

namespace SqlDump.Literal

open Client (Raw)

/-- Why a client value has no literal. -/
inductive RowError where
  | adapt (error : AdaptError)
  | numeral (error : Numeral.Error)
  deriving DecidableEq, Repr

def RowError.message : RowError → Text
  | .adapt error => error.message
  | .numeral error => error.message

/-- The literal of a client value without a hint from its column. -/
def ofRaw (raw : Raw) : Except RowError Text :=
  match Value.ofRaw none raw with
  | .error error => .error (.adapt error)
  | .ok value =>
      match encode value with
      | .ok literal => .ok literal
      | .error error => .error (.numeral error)

def rowOfRaw (row : List Raw) : Except RowError Text :=
  return joinRow (← row.mapM ofRaw)

def rowsOfRaw (rows : List (List Raw)) : Except RowError Text :=
  return joinRows (← rows.mapM rowOfRaw)

end SqlDump.Literal
