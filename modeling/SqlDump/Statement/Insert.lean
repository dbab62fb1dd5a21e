import SqlDump.Literal.Row
import SqlDump.Statement.Name
import SqlDump.Text.Capital

/-!
# Statements of a dump

The statements that a dump consists of besides the definitions of its tables:
the choice of a database, the removal of a table, and the insertion of rows under
one of three verbs.
-/

namespace SqlDump

/-- What happens to a row whose key is taken. -/
inductive InsertMode where
  | insert
  | insertIgnore
  | replace
  deriving DecidableEq, Repr

namespace InsertMode

def verb : InsertMode → String
  | .insert => "INSERT INTO"
  | .insertIgnore => "INSERT IGNORE INTO"
  | .replace => "REPLACE INTO"

def name : InsertMode → String
  | .insert => "INSERT"
  | .insertIgnore => "INSERT_IGNORE"
  | .replace => "REPLACE"

def all : List InsertMode := [.insert, .insertIgnore, .replace]

/-- A name that no mode has. -/
structure Unsupported where
  given : Text
  deriving DecidableEq, Repr

def Unsupported.message (error : Unsupported) : Text :=
  text "Unsupported insert mode: " ++ error.given

/-- The capitals of a name without blanks at its ends, with an underscore for each
dash and each space. -/
def normalize (given : Text) : Text :=
  (Text.capitals given.strip).map fun symbol =>
    if symbol = .char '-' ∨ symbol = .char ' ' then .char '_' else symbol

/-- The mode with a name, in small letters or capitals. -/
def ofName (given : Text) : Except Unsupported InsertMode :=
  match all.find? fun mode => text mode.name = normalize given with
  | some mode => .ok mode
  | none => .error { given }

end InsertMode

namespace Statement

def use (database : Text) : Text :=
  text "USE " ++ identifier database

/-- Removes a table where there is one. -/
def dropTable (table : Text) : Text :=
  text "DROP TABLE IF EXISTS " ++ identifier table ++ text ";\n"

/-- The beginning of a statement that inserts rows. -/
def insertHead (mode : InsertMode) (table : Text) : Text :=
  text mode.verb ++ text " " ++ identifier table ++ text " VALUES \n"

/-- Inserts rows of stored values; without rows there is no statement. -/
def insert (mode : InsertMode) (table : Text) (rows : List (List Value)) :
    Except Numeral.Error Text :=
  if rows.isEmpty then .ok []
  else return insertHead mode table ++ (← Literal.encodeRows rows)

/-- Inserts rows of client values. -/
def insertRaw (mode : InsertMode) (table : Text) (rows : List (List Client.Raw)) :
    Except Literal.RowError Text :=
  if rows.isEmpty then .ok []
  else return insertHead mode table ++ (← Literal.rowsOfRaw rows)

end Statement

end SqlDump
