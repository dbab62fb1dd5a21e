import SqlDump.Command.Invocation
import SqlDump.Session.Operation

/-!
# Running an invocation

The program reads its command line, does one task and ends with a status. The
task runs on a connection of its own that is closed whatever happens. Failures of
the library and of the operating system are logged and give status one; every
other failure ends the program as it is.
-/

namespace SqlDump.Command

open Server Dump

/-- What ends the program without a status. -/
inductive Escape where
  /-- The port in the environment is no numeral. -/
  | port (error : Numeral.Error)
  /-- The log has no such level. -/
  | logLevel (given : Text)
  | failed (failure : Failure)
  deriving Repr

def Escape.message : Escape → Text
  | .port error => error.message
  | .logLevel given => text "Invalid log level: " ++ given
  | .failed failure => failure.message

/-- How the program ends. -/
inductive Ending where
  | status (code : Nat)
  /-- The help text was asked for. -/
  | help
  /-- The command line is misused. -/
  | misuse (program : String) (misuse : Misuse)
  | escape (escape : Escape)
  deriving Repr

/-- The line that says how a command line is misused. -/
def misuseLine (program : String) (misuse : Misuse) : Text :=
  text program ++ text ": error: " ++ misuse.message

/-- What the program did: how it ended, what it printed, and the session behind it.
Its log has the threshold `level`. -/
structure Run where
  ending : Ending
  output : Text := []
  level : Int
  session : Session
  deriving Repr

/-- The records of the log that are shown. -/
def Run.records (run : Run) : List LogRecord :=
  LogThresholds.visible { backend := run.level, program := run.level } run.session.context.journal

def dumpOptions (withData withDrop : Bool) (mode : InsertMode) : DumpOptions :=
  { withData, withDrop, insertMode := mode }

def importedMessage (count : Nat) (path : Text) : Text :=
  text "Imported " ++ Digit.text (digits count) ++ text " statements from " ++ path

/-- Does a task on a connection and waits for each answer. -/
def blockingWork (settings : Settings) (clock : Clock) : Task → Blocking Unit
  | .exportDump database path withData withDrop mode =>
      let options := dumpOptions withData withDrop mode
      match path with
      | some path => Blocking.writeDump settings options { options, clock } database path
      | none => Blocking.dumpNowhere settings options { options, clock } database
  | .importScript path database => do
      let count ← Blocking.restoreFile settings path database
      Blocking.log .command .info (importedMessage count path)
  | .splitScript _ => Blocking.done ()

/-- Does a task between the beginning and the end of a connection. -/
def blockingTask (settings : Settings) (clock : Clock) (task : Task) : Blocking Unit := do
  let outcome ← Blocking.attempt do
    Blocking.connect settings
    blockingWork settings clock task
  Blocking.disconnect
  Blocking.ofExcept outcome

/-- Does a task on a connection, suspended at each call. -/
def suspendedWork (settings : Settings) (clock : Clock) : Task → Suspended Unit
  | .exportDump database path withData withDrop mode =>
      let options := dumpOptions withData withDrop mode
      match path with
      | some path => Suspended.writeDump settings options { options, clock } database path
      | none => Suspended.dumpNowhere settings options { options, clock } database
  | .importScript path database => do
      let count ← Suspended.restoreFile settings path database
      Suspended.log .command .info (importedMessage count path)
  | .splitScript _ => Suspended.done ()

/-- Does a task between the beginning and the end of a connection. -/
def suspendedTask (settings : Settings) (clock : Clock) (task : Task) : Suspended Unit := do
  let outcome ← Suspended.attempt do
    Suspended.connect settings
    suspendedWork settings clock task
  Suspended.disconnect
  Suspended.ofExcept outcome

/-- What the log says about a failure that gives status one. -/
def failureMessage? (failure : Failure) : Option Text :=
  match failure with
  | .connection _ => some (text "Database connection error: " ++ failure.message)
  | .restore index _ _ _ =>
      some (text "Import stopped after " ++ Digit.text (digits index) ++ text " statements: " ++
        failure.message)
  | _ =>
      if failure.isOwn then some (text "Database error: " ++ failure.message)
      else if failure.isSystem then some (text "File error: " ++ failure.message)
      else none

/-- The run of a task that came to an end. -/
def finish (level : Int) (output : Text) (outcome : Except Failure Unit) (session : Session) :
    Run :=
  match outcome with
  | .ok _ => { ending := .status 0, output, level, session }
  | .error failure =>
      match failureMessage? failure with
      | some message =>
          { ending := .status 1, output, level
            session := { session with context := session.context.log .command .error message } }
      | none => { ending := .escape (.failed failure), output, level, session }

/-- The statements of a script as they are shown, one after another. -/
def shownStatements (script : Text) : Text :=
  (Script.statements script).flatMap fun statement => statement ++ text ";\n"

/-- Runs an invocation whose log has the threshold `level`. -/
def runTask (clock : Clock) (invocation : Invocation) (level : Int) (session : Session) : Run :=
  match invocation.task with
  | .splitScript path =>
      match readScript session.context.files path with
      | .ok script => finish level (shownStatements script) (.ok ()) session
      | .error error => finish level [] (.error (.file error)) session
  | task =>
      let settings := invocation.settings level
      let (outcome, after) :=
        if invocation.suspended then (suspendedTask settings clock task).run session
        else (blockingTask settings clock task).run session
      finish level [] outcome after

/-- The threshold of the log before the command line is read. -/
def firstLevel : Int := LogLevel.info.number

/-- Runs the program on the words of a command line. -/
def run (environment : Environment) (clock : Clock) (arguments : List Text) (session : Session) :
    Run :=
  match environment.port with
  | .error error => { ending := .escape (.port error), level := firstLevel, session }
  | .ok port =>
      match readInvocation environment port arguments with
      | .error .help => { ending := .help, level := firstLevel, session }
      | .error (.misuse program misuse) =>
          { ending := .misuse program misuse, level := firstLevel, session }
      | .ok invocation =>
          match LogLevel.ofName? (Text.capitals invocation.logLevel) with
          | none =>
              { ending := .escape (.logLevel invocation.logLevel), level := firstLevel, session }
          | some level => runTask clock invocation level session

end SqlDump.Command
