import SqlDump.Dump.Options
import SqlDump.Server.Result

/-!
# The sections of a dump

A dump begins with a header and ends with a footer; in between each table has a
section for its structure and one for its data. Titles and names stand in line
comments, and every other line belongs to a statement.
-/

namespace SqlDump.Dump

open Server (Result)

/-- The statements that prepare the session of a restore, in groups. -/
def prologueGroups : List (List Text) :=
  [[text "SET SQL_MODE = \"NO_AUTO_VALUE_ON_ZERO\"", text "START TRANSACTION",
      text "SET time_zone = \"+00:00\""],
    [text "/*!40101 SET @OLD_CHARACTER_SET_CLIENT=@@CHARACTER_SET_CLIENT */",
      text "/*!40101 SET @OLD_CHARACTER_SET_RESULTS=@@CHARACTER_SET_RESULTS */",
      text "/*!40101 SET @OLD_COLLATION_CONNECTION=@@COLLATION_CONNECTION */",
      text "/*!40101 SET NAMES utf8mb4 */"]]

/-- The statements at the beginning of a dump. -/
def prologue : List Text :=
  prologueGroups.flatten

/-- The statements at the end of a dump. -/
def epilogue : List Text :=
  [text "COMMIT", text "/*!40101 SET CHARACTER_SET_CLIENT=@OLD_CHARACTER_SET_CLIENT */",
    text "/*!40101 SET CHARACTER_SET_RESULTS=@OLD_CHARACTER_SET_RESULTS */",
    text "/*!40101 SET COLLATION_CONNECTION=@OLD_COLLATION_CONNECTION */"]

/-- Statements, one a line. -/
def lines (statements : List Text) : Text :=
  statements.flatMap fun statement => statement ++ text ";\n"

/-- The text of the first statements, with an empty line after each group. -/
def prologueText : Text :=
  prologueGroups.flatMap fun group => lines group ++ text "\n"

/-- The options of a dump with the clock for its header. -/
structure Formatter where
  options : DumpOptions
  clock : Clock
  deriving DecidableEq, Repr

namespace Formatter

/-- The header: title, database and time as comments, and the first statements. -/
def header (formatter : Formatter) (database : Text) : Text :=
  text "-- " ++ formatter.options.headerTitle ++ text "\n-- Database: " ++ database ++
    text "\n-- Date: " ++ formatter.clock.stamp ++ text "\n\n" ++ prologueText

/-- The comment in front of a section of a table. -/
def comment (what : String) (table : Text) : Text :=
  text "--\n-- " ++ text what ++ text " " ++ Statement.identifier table ++ text "\n--\n\n"

/-- The structure of a table: its comment, its removal where that is wanted, and
the statement that makes it. -/
def structureSection (formatter : Formatter) (table definition : Text) : Text :=
  comment "Structure for table" table ++
    (if formatter.options.withDrop then Statement.dropTable table else []) ++
    definition ++ text ";\n\n"

/-- The data of a table: its comment, and the insertion of its rows. -/
def dataSection (formatter : Formatter) (table : Text) (result : Result) :
    Except Literal.RowError Text :=
  match result.typedRows .standard with
  | .error error => .error (.adapt error)
  | .ok rows =>
      match Statement.insert formatter.options.insertMode table rows with
      | .error error => .error (.numeral error)
      | .ok statement => .ok (comment "Dumping data for table" table ++ statement)

def footer : Text :=
  lines epilogue

end Formatter

end SqlDump.Dump
