import SqlDump.Command.Grammar
import SqlDump.Settings.Environment
import SqlDump.Statement.Insert

/-!
# Invocations

What the program is asked to do: where the server is, how loud the log is, and
which of the three commands it runs. Environment variables give the defaults of
the options.
-/

namespace SqlDump.Command

def programName : String := "rhosocial-mysqldump"

/-- The options that every grammar has. -/
def helpOption : OptionRule := { names := ["-h", "--help"], form := .help }

/-- An option with an argument of any form. -/
def valueOption (name : String) : OptionRule := { names := [name], form := .value }

def flagOption (name : String) : OptionRule := { names := [name], form := .flag }

/-- The grammar in front of the command. -/
def mainGrammar : Grammar where
  program := programName
  options :=
    [helpOption, valueOption "--host", { names := ["--port"], form := .number },
      valueOption "--user", valueOption "--password", valueOption "--charset",
      flagOption "--use-async", valueOption "--log-level"]
  operands := .command "command" ["export", "import", "split"]

def modeNames : List String := ["insert", "insert-ignore", "replace"]

def exportGrammar : Grammar where
  program := programName ++ " export"
  options :=
    [helpOption, flagOption "--no-data", flagOption "--drop",
      { names := ["--mode"], form := .choice modeNames }]
  operands := .named ["database", "file"]

def importGrammar : Grammar where
  program := programName ++ " import"
  options := [helpOption, valueOption "--database"]
  operands := .named ["file"]

/-- The grammar of the command that shows the statements of a script. -/
def splitGrammar : Grammar where
  program := programName ++ " split"
  options := [helpOption]
  operands := .named ["file"]

/-- What the program does. -/
inductive Task where
  /-- Writes a dump of a database into a file, if there is a path for it. -/
  | exportDump (database : Text) (path : Option Text) (withData withDrop : Bool)
      (mode : InsertMode)
  /-- Executes the statements of a file. -/
  | importScript (path : Text) (database : Option Text)
  /-- Shows the statements of a file. -/
  | splitScript (path : Text)
  deriving DecidableEq, Repr

/-- What the program is asked to do. -/
structure Invocation where
  host : Text
  port : Int
  user : Text
  password : Text
  charset : Text
  suspended : Bool
  logLevel : Text
  task : Task
  deriving DecidableEq, Repr

/-- The operand at a place, if it was not lost. -/
def Reading.operand? (reading : Reading) (place : Nat) : Option Text :=
  reading.operands[place]?.join

/-- The first operand, which is never lost. -/
def Reading.firstOperand (reading : Reading) : Text :=
  (reading.operand? 0).getD []

/-- The mode of a command line, which the grammar has checked. -/
def Reading.mode (reading : Reading) : InsertMode :=
  match InsertMode.ofName ((reading.argument? "--mode").getD (text "insert")) with
  | .ok mode => mode
  | .error _ => .insert

/-- The task of a command and the words that it does not expect. -/
def readTask (environment : Environment) (name : Text) (arguments : List Text) :
    Except Halt (Task × List Text) := do
  if name = text "export" then
    let reading ← exportGrammar.read arguments
    return (.exportDump reading.firstOperand (reading.operand? 1) (!reading.has "--no-data")
      (reading.has "--drop") reading.mode, reading.extras)
  else if name = text "import" then
    let reading ← importGrammar.read arguments
    let database := (reading.argument? "--database").or (environment.find? "MYSQL_DATABASE")
    return (.importScript reading.firstOperand database, reading.extras)
  else if name = text "split" then
    let reading ← splitGrammar.read arguments
    return (.splitScript reading.firstOperand, reading.extras)
  else
    .error (.misuse programName
      (.notChoice (text "command") name ["export", "import", "split"]))

/-- The port of a command line, which the grammar has checked. -/
def Reading.port (reading : Reading) (otherwise : Int) : Int :=
  match (reading.argument? "--port").map Numeral.ofText with
  | some (.ok port) => port
  | _ => otherwise

/-- Reads a command line. `port` is the port that the environment names. -/
def readInvocation (environment : Environment) (port : Int) (arguments : List Text) :
    Except Halt Invocation := do
  let reading ← mainGrammar.read arguments
  let value (option inEnvironment otherwise : String) : Text :=
    (reading.argument? option).getD (environment.textOr inEnvironment otherwise)
  let (name, words) := reading.command.getD ([], [])
  let (task, extras) ← readTask environment name words
  let unexpected := reading.extras ++ extras
  if !unexpected.isEmpty then .error (.misuse programName (.unrecognized unexpected))
  else
    return {
      host := value "--host" "MYSQL_HOST" "localhost"
      port := reading.port port
      user := value "--user" "MYSQL_USER" "root"
      password := value "--password" "MYSQL_PASSWORD" ""
      charset := value "--charset" "MYSQL_CHARSET" "utf8mb4"
      suspended := reading.has "--use-async"
      logLevel := (reading.argument? "--log-level").getD (text "INFO")
      task }

/-- The settings of an invocation with a threshold for its log. -/
def Invocation.settings (invocation : Invocation) (level : Int) : Settings :=
  { host := .text invocation.host, port := .integer invocation.port
    username := .text invocation.user, password := .text invocation.password
    charset := .text invocation.charset, logLevel := .integer level }

end SqlDump.Command
