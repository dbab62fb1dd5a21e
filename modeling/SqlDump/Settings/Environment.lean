import SqlDump.Settings

/-!
# Settings from the environment

Environment variables give defaults for the place of the server and the login.
The port has to be a numeral even where something else overrides it.
-/

namespace SqlDump

open Client (Raw)

abbrev Environment := List (Text × Text)

namespace Environment

def find? (environment : Environment) (name : String) : Option Text :=
  environment.lookup (text name)

/-- The value of a variable, or what it is without one. -/
def textOr (environment : Environment) (name : String) (otherwise : String) : Text :=
  (environment.find? name).getD (text otherwise)

/-- The port that the environment names. -/
def port (environment : Environment) : Except Numeral.Error Int :=
  match environment.find? "MYSQL_PORT" with
  | none => .ok 3306
  | some content => Numeral.ofText content

end Environment

/-- The settings that the environment names. -/
def Settings.ofEnvironment (environment : Environment) : Except Numeral.Error Settings := do
  let port ← environment.port
  return {
    host := .text (environment.textOr "MYSQL_HOST" "localhost")
    port := .integer port
    database := ((environment.find? "MYSQL_DATABASE").map Raw.text).getD .nothing
    username := .text (environment.textOr "MYSQL_USER" "root")
    password := .text (environment.textOr "MYSQL_PASSWORD" "")
    charset := .text (environment.textOr "MYSQL_CHARSET" "utf8mb4") }

end SqlDump
