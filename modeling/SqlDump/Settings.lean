import SqlDump.Client.Display

/-!
# Connection settings

Settings say where the server is, how to log in, and how the connection behaves.
They become named arguments of the client library: settings without a value are
left out, further options override the settings of the same name, and unless the
options say otherwise the connection reads temporal columns in the way that keeps
zero dates.
-/

namespace SqlDump

open Client (Raw)

/-- Whether a value counts as true: zero and what is empty do not. -/
def Client.Raw.isTruthy (raw : Raw) : Bool :=
  match raw.plain with
  | .nothing => false
  | .truth value => value
  | .integer number => number ≠ 0
  | .real number => !number.isZero
  | .text content => !content.isEmpty
  | .octets _ content => !content.isEmpty
  | .mapping _ entries => !entries.isEmpty
  | .sequence items => !items.isEmpty
  | .tuple items => !items.isEmpty
  | .set _ members => !members.isEmpty
  | _ => true

/-- A value of a connection argument. -/
inductive Argument where
  | plain (value : Raw)
  /-- The way of reading temporal columns that keeps what no calendar has. -/
  | temporalColumns
  deriving Repr

/-- The settings of a connection; `nothing` stands for a setting without a value. -/
structure Settings where
  host : Raw := .text (text "localhost")
  port : Raw := .integer 3306
  database : Raw := .nothing
  username : Raw := .nothing
  password : Raw := .nothing
  charset : Raw := .text (text "utf8mb4")
  collation : Raw := .nothing
  timezone : Raw := .text (text "+00:00")
  autocommit : Raw := .truth true
  initCommand : Raw := .nothing
  connectTimeout : Raw := .integer 10
  usePure : Raw := .truth true
  getWarnings : Raw := .truth true
  sslCa : Raw := .nothing
  sslCert : Raw := .nothing
  sslKey : Raw := .nothing
  sslVerifyCert : Raw := .truth false
  sslDisabled : Raw := .nothing
  logLevel : Raw := .integer 20
  options : List (Text × Raw) := []
  deriving Repr

namespace Settings

/-- Settings with another value for the setting of a name, if there is such a one. -/
def withSetting? (settings : Settings) (name : String) (value : Raw) : Option Settings :=
  match name with
  | "host" => some { settings with host := value }
  | "port" => some { settings with port := value }
  | "database" => some { settings with database := value }
  | "username" => some { settings with username := value }
  | "password" => some { settings with password := value }
  | "charset" => some { settings with charset := value }
  | "collation" => some { settings with collation := value }
  | "timezone" => some { settings with timezone := value }
  | "autocommit" => some { settings with autocommit := value }
  | "init_command" => some { settings with initCommand := value }
  | "connect_timeout" => some { settings with connectTimeout := value }
  | "use_pure" => some { settings with usePure := value }
  | "get_warnings" => some { settings with getWarnings := value }
  | "ssl_ca" => some { settings with sslCa := value }
  | "ssl_cert" => some { settings with sslCert := value }
  | "ssl_key" => some { settings with sslKey := value }
  | "ssl_verify_cert" => some { settings with sslVerifyCert := value }
  | "ssl_disabled" => some { settings with sslDisabled := value }
  | "log_level" => some { settings with logLevel := value }
  | _ => none

/-- Puts a named value in the place of the value with the same name, or at the end. -/
def put (arguments : List (Text × Raw)) (name : Text) (value : Raw) : List (Text × Raw) :=
  if arguments.any fun argument => argument.1 = name then
    arguments.map fun argument => if argument.1 = name then (name, value) else argument
  else arguments ++ [(name, value)]

/-- The settings under the names of the client library's arguments. -/
def named (settings : Settings) : List (Text × Raw) :=
  [(text "host", settings.host), (text "port", settings.port),
    (text "database", settings.database), (text "user", settings.username),
    (text "password", settings.password), (text "charset", settings.charset),
    (text "collation", settings.collation), (text "autocommit", settings.autocommit),
    (text "init_command", settings.initCommand),
    (text "connection_timeout", settings.connectTimeout), (text "use_pure", settings.usePure),
    (text "get_warnings", settings.getWarnings), (text "ssl_ca", settings.sslCa),
    (text "ssl_cert", settings.sslCert), (text "ssl_key", settings.sslKey),
    (text "ssl_disabled", settings.sslDisabled)] ++
  if settings.sslVerifyCert.isTruthy then [(text "ssl_verify_cert", .truth true)] else []

def hasValue : Raw → Bool
  | .nothing => false
  | _ => true

/-- The arguments with a value: the settings, overridden by the options. -/
def toArguments (settings : Settings) : List (Text × Raw) :=
  (settings.options.foldl (fun arguments option => put arguments option.1 option.2)
    settings.named).filter fun argument => hasValue argument.2

/-- The name of the argument that says how columns are read. -/
def converterName : Text := text "converter_class"

/-- The arguments that a connection is opened with. -/
def connectionArguments (settings : Settings) : List (Text × Argument) :=
  let arguments := settings.toArguments
  arguments.map (fun argument => (argument.1, .plain argument.2)) ++
    if arguments.any fun argument => argument.1 = converterName then []
    else [(converterName, .temporalColumns)]

end Settings

end SqlDump
