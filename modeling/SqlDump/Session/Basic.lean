import SqlDump.Server.Failure
import SqlDump.Server.Script
import SqlDump.Session.Log
import SqlDump.Statement.Name

/-!
# Sessions

A session is the state that operations on one server share: whether a connection
is attached, the files of the working directory, the log, and the wire to the
server. What an operation says and what it makes of an answer is laid down here;
how it waits for answers is left to the two kinds of operations.
-/

namespace SqlDump

open Server

/-- The part of a session on this side of the wire. Records are kept latest first. -/
structure Context where
  attached : Bool := false
  files : Files := []
  records : List LogRecord := []
  deriving Repr

/-- The state that operations on one server share. -/
structure Session where
  context : Context
  wire : Wire
  deriving Repr

/-- The session at the beginning, with a scripted server and files. -/
def Session.start (script : Script) (files : Files) : Session :=
  { context := { files }, wire := { script } }

/-- Adds a record to the log. -/
def Context.log (context : Context) (source : LogSource) (level : LogLevel) (message : Text) :
    Context :=
  { context with records := { source, level, message } :: context.records }

/-- The records of the log, in order. -/
def Context.journal (context : Context) : List LogRecord :=
  context.records.reverse

/-! ## What operations say -/

namespace Notice

/-- A connection was made. -/
def connected (settings : Settings) : Text :=
  text "Connected to MySQL at " ++ Client.displayPlain settings.host ++ text ":" ++
    Client.displayPlain settings.port

/-- The time zone of a connection could not be set. -/
def timezoneRefused (settings : Settings) (fault : Fault) : Text :=
  text "Could not set MySQL timezone to " ++ Client.displayPlain settings.timezone ++ text ": " ++
    fault.message

def disconnected : Text := text "Disconnected from MySQL"

/-- A statement needs a connection that is not there. -/
def reconnecting : Text := text "No active connection, establishing new connection"

def executing (statement : Text) : Text := text "Executing SQL: " ++ statement

def failed (fault : Fault) : Text := text "Error executing SQL: " ++ fault.message

def completed (result : Result) : Text :=
  text "Statement completed, affected " ++ Numeral.plain result.affectedRows ++
    text " rows, duration=0.000s"

/-- The rows of a table are written. -/
def dumpingRows (result : Result) (table : Text) : Text :=
  text "Dumping " ++ Digit.text (digits result.rows.length) ++ text " rows of table " ++ table

def exporting (database path : Text) : Text :=
  text "Exporting database " ++ database ++ text " to " ++ path

def exported (database : Text) : Text :=
  text "Export of database " ++ database ++ text " completed"

def importing (path : Text) : Text := text "Importing " ++ path

/-- The statements of a script are executed. -/
def restoring (count : Nat) : Text :=
  text "Restoring " ++ Digit.text (digits count) ++ text " statements"

def restored (count : Nat) : Text :=
  text "Restore completed, " ++ Digit.text (digits count) ++ text " statements executed"

end Notice

/-! ## What operations ask -/

namespace Query

def timezone (settings : Settings) : Text :=
  text "SET time_zone = '" ++ Client.displayPlain settings.timezone ++ text "'"

def tables (database : Text) : Text :=
  text "SHOW TABLES FROM " ++ Statement.identifier database

def definition (database table : Text) : Text :=
  text "SHOW CREATE TABLE " ++ Statement.qualifiedName [database, table]

def rows (database table : Text) : Text :=
  text "SELECT * FROM " ++ Statement.qualifiedName [database, table]

end Query

/-! ## What operations make of answers -/

/-- The text of a name, which octets have to be valid UTF-8 for. -/
def nameOf (raw : Client.Raw) : Except Failure Text :=
  match raw.plain with
  | .octets .plain octets | .octets .buffer octets =>
      match Utf8.read octets with
      | .ok name => .ok name
      | .error invalid => .error (.name invalid)
  | _ => .ok (Client.displayPlain raw)

/-- The name in a column of a row. -/
def nameInColumn (column : Nat) (row : List Client.Raw) : Except Failure Text :=
  match row[column]? with
  | some raw => nameOf raw
  | none => .error .missingColumn

def tableNames (result : Result) : Except Failure (List Text) :=
  result.rows.mapM (nameInColumn 0)

/-- The definition of a table that a result shows, if it shows one. -/
def definitionIn (result : Result) : Except Failure (Option Text) :=
  match result.rows with
  | [] => .ok none
  | row :: _ => return some (← nameInColumn 1 row)

end SqlDump
