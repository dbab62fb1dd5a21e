import SqlDump.Settings
import SqlDump.Text.Capital

/-!
# Log records

What the parts of the program say while they work. A record is shown where its
level reaches the threshold of its source; a source without a threshold of its
own has that of the whole program.
-/

namespace SqlDump

/-- The parts of the program that keep a log. -/
inductive LogSource where
  | backend
  | dump
  | restore
  | command
  deriving DecidableEq, Repr

/-- The name of a source, under which its records are shown. -/
def LogSource.name : LogSource → String
  | .backend => "backend"
  | .dump => "dump"
  | .restore => "restore"
  | .command => "main"

/-- The importance of a record. -/
inductive LogLevel where
  | debug
  | info
  | warning
  | error
  | critical
  deriving DecidableEq, Repr

namespace LogLevel

/-- The number of a level. -/
def number : LogLevel → Int
  | .debug => 10
  | .info => 20
  | .warning => 30
  | .error => 40
  | .critical => 50

/-- The name of a level. -/
def name : LogLevel → String
  | .debug => "DEBUG"
  | .info => "INFO"
  | .warning => "WARNING"
  | .error => "ERROR"
  | .critical => "CRITICAL"

/-- The numbers of levels by all their names. -/
def named : List (String × Int) :=
  [("CRITICAL", 50), ("FATAL", 50), ("ERROR", 40), ("WARNING", 30), ("WARN", 30), ("INFO", 20),
    ("DEBUG", 10), ("NOTSET", 0)]

/-- The number of the level with a name in capitals. -/
def ofName? (name : Text) : Option Int :=
  (named.find? fun entry => text entry.1 = name).map Prod.snd

end LogLevel

/-- A record of a log. -/
structure LogRecord where
  source : LogSource
  level : LogLevel
  message : Text
  deriving DecidableEq, Repr

/-- The level that records have to reach: that of the backend, where zero leaves
it open, and that of the whole program. -/
structure LogThresholds where
  backend : Int
  program : Int
  deriving DecidableEq, Repr

/-- Why a setting is no threshold. -/
inductive LogLevelError where
  | unknown (name : Text)
  | notLevel (shown : Text)
  deriving DecidableEq, Repr

def LogLevelError.message : LogLevelError → Text
  | .unknown name => text "Unknown level: " ++ Quoted.ofText name
  | .notLevel shown => text "Level not an integer or a valid string: " ++ shown

/-- The threshold that settings name: a number, or the name of a level. -/
def Settings.logThreshold (settings : Settings) : Except LogLevelError Int :=
  match settings.logLevel with
  | .integer number => .ok number
  | .truth value => .ok (if value then 1 else 0)
  | .text name =>
      match LogLevel.ofName? name with
      | some number => .ok number
      | none => .error (.unknown name)
  | other => .error (.notLevel (Client.displayInside other))

namespace LogThresholds

/-- The threshold of a source. -/
def ofSource (thresholds : LogThresholds) : LogSource → Int
  | .backend => if thresholds.backend = 0 then thresholds.program else thresholds.backend
  | _ => thresholds.program

/-- The records that are shown. -/
def visible (thresholds : LogThresholds) (records : List LogRecord) : List LogRecord :=
  records.filter fun record => thresholds.ofSource record.source ≤ record.level.number

end LogThresholds

end SqlDump
