import SqlDump.Script.Scanner
import SqlDump.Text.Blank

/-!
# Splitters

A splitter reads scripts one after another. It follows the scanner, collects what
is kept, and turns what it has collected into a statement at each delimiter and at
the end of the script. It forgets everything before and after each script.
-/

namespace SqlDump.Script

/-- Where a splitter stands, the symbols kept since the last delimiter and the
statements finished so far, both newest first. -/
structure Splitter where
  state : State := .start
  newestKept : Text := []
  newestStatements : List Text := []
  deriving DecidableEq, Repr

namespace Splitter

def fresh : Splitter := {}

/-- The splitter without anything it has read. -/
def reset (_ : Splitter) : Splitter := fresh

/-- The symbols kept since the last delimiter. -/
def buffer (splitter : Splitter) : Text :=
  splitter.newestKept.reverse

/-- The statements finished so far. -/
def emitted (splitter : Splitter) : List Text :=
  splitter.newestStatements.reverse

/-- Ends the pending statement, which counts where it has more than blanks. -/
def flush (splitter : Splitter) : Splitter :=
  let statement := Text.strip splitter.buffer
  { splitter with
    newestKept := []
    newestStatements :=
      if statement.isEmpty then splitter.newestStatements
      else statement :: splitter.newestStatements }

/-- What a mark does to the statements. -/
def take (splitter : Splitter) : Option Mark → Splitter
  | none => splitter
  | some (.kept symbol) => { splitter with newestKept := symbol :: splitter.newestKept }
  | some .delimiter => splitter.flush

/-- The splitter at another place of the script. -/
def moveTo (splitter : Splitter) (state : State) : Splitter :=
  { splitter with state }

/-- Reads one symbol, with the symbol after it. -/
def read (splitter : Splitter) (symbol : Symbol) (next : Option Symbol) : Splitter :=
  let (mark, after) := splitter.state.advance symbol next
  (splitter.take mark).moveTo after

def feed : Splitter → Text → Splitter
  | splitter, [] => splitter
  | splitter, symbol :: rest => (splitter.read symbol rest.head?).feed rest

/-- The statements of a script, and the splitter behind it. -/
def split (splitter : Splitter) (script : Text) : List Text × Splitter :=
  let ended := (splitter.reset.feed script).flush
  (ended.emitted, ended.reset)

/-- The statements of each script of a list, read by one splitter. -/
def splitEach : Splitter → List Text → List (List Text)
  | _, [] => []
  | splitter, script :: rest =>
      let (statements, after) := splitter.split script
      statements :: after.splitEach rest

end Splitter

end SqlDump.Script
