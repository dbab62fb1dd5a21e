import SqlDump.Script.Statements
import SqlDump.Session.Suspended

/-!
# Restoring a script, suspended

Later statements may depend on earlier ones, so each is resumed with its answer
before the next one is sent. The first statement that fails stops the restore.
-/

namespace SqlDump.Suspended

open Server

def reportFailure (index total : Nat) (statement : Text) (failure : Failure) : Suspended Unit := do
  if failure.isOwn then
    let stopped := Failure.restore index total statement failure
    log .restore .error stopped.message
    fail stopped
  else fail failure

/-- Executes statements from the place `index` of `total` on. -/
def executeFrom (settings : Settings) (total : Nat) : (index : Nat) → List Text → Suspended Unit
  | _, [] => done ()
  | index, statement :: rest => do
      match ← attempt (execute settings statement []) with
      | .ok _ => executeFrom settings total (index + 1) rest
      | .error failure => reportFailure index total statement failure

/-- Executes the statements of a script in a database, and counts them. -/
def restore (settings : Settings) (script : Text) (database : Option Text) : Suspended Nat := do
  let statements := Script.statements script
  if let some name := database.filter (!·.isEmpty) then useDatabase settings name
  log .restore .info (Notice.restoring statements.length)
  executeFrom settings statements.length 0 statements
  log .restore .info (Notice.restored statements.length)
  return statements.length

/-- Executes the statements of a file. -/
def restoreFile (settings : Settings) (path : Text) (database : Option Text) : Suspended Nat := do
  log .restore .info (Notice.importing path)
  let script ← ofExcept ((readScript (← context).files path).mapError .file)
  restore settings script database

end SqlDump.Suspended
