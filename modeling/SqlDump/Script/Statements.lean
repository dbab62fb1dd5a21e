import SqlDump.Script.Splitter

/-!
# The statements of a script

The statements are what a fresh splitter makes of a script. Comments and quoted
runs that are left open end with the script.
-/

namespace SqlDump.Script

/-- The trimmed pieces that are not empty. -/
def statementsOf (pieces : List Text) : List Text :=
  (pieces.map Text.strip).filter (!·.isEmpty)

/-- The statements of a script, in order and without their delimiters. -/
def statements (script : Text) : List Text :=
  (Splitter.fresh.split script).1

/-- The statements of each script of a list, read by one splitter. -/
def statementsOfEach (scripts : List Text) : List (List Text) :=
  Splitter.fresh.splitEach scripts

@[simp] theorem statements_nil : statements [] = [] := rfl

end SqlDump.Script
