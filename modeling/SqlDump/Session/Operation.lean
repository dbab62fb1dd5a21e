import SqlDump.Dump.Blocking
import SqlDump.Dump.Suspended
import SqlDump.Restore.Blocking
import SqlDump.Restore.Suspended

/-!
# Operations of a session

Everything that can be done with one server, as a value, so that sequences of
operations can be run in both ways: waiting for each answer, or suspended on an
event loop.
-/

namespace SqlDump

open Server Dump

/-- An operation of a session. -/
inductive Operation where
  | connect
  | disconnect
  /-- The beginning of a block that closes its connection at the end. -/
  | enter
  /-- The end of such a block. -/
  | exit
  | execute (statement : Text) (parameters : List Client.Raw)
  | useDatabase (database : Text)
  | listTables (database : Text)
  | showDefinition (database table : Text)
  | fetchTable (database table : Text)
  | chunks (options : DumpOptions) (formatter : Formatter) (database : Text)
  | dump (options : DumpOptions) (formatter : Formatter) (database : Text)
  | writeDump (options : DumpOptions) (formatter : Formatter) (database path : Text)
  | restore (script : Text) (database : Option Text)
  | restoreFile (path : Text) (database : Option Text)
  deriving Repr

/-- What an operation that succeeds gives. -/
inductive Outcome where
  | nothing
  | entered
  | result (result : Result)
  | names (names : List Text)
  | definition (definition : Option Text)
  | chunks (chunks : List Text)
  | text (content : Text)
  | count (count : Nat)
  deriving Repr

/-- Runs an operation that waits for each answer. -/
def Operation.blocking (settings : Settings) : Operation → Blocking Outcome
  | .connect => do Blocking.connect settings; return .nothing
  | .disconnect => do Blocking.disconnect; return .nothing
  | .enter => do Blocking.connect settings; return .entered
  | .exit => do Blocking.disconnect; return .nothing
  | .execute statement parameters =>
      return .result (← Blocking.execute settings statement parameters)
  | .useDatabase database => do Blocking.useDatabase settings database; return .nothing
  | .listTables database => return .names (← Blocking.listTables settings database)
  | .showDefinition database table =>
      return .definition (← Blocking.showDefinition settings database table)
  | .fetchTable database table => return .result (← Blocking.fetchTable settings database table)
  | .chunks options formatter database =>
      return .chunks (← Blocking.dumpChunks settings options formatter database)
  | .dump options formatter database =>
      return .text (← Blocking.dump settings options formatter database)
  | .writeDump options formatter database path => do
      Blocking.writeDump settings options formatter database path
      return .nothing
  | .restore script database => return .count (← Blocking.restore settings script database)
  | .restoreFile path database => return .count (← Blocking.restoreFile settings path database)

/-- Runs an operation that is suspended at each call. -/
def Operation.suspended (settings : Settings) : Operation → Suspended Outcome
  | .connect => do Suspended.connect settings; return .nothing
  | .disconnect => do Suspended.disconnect; return .nothing
  | .enter => do Suspended.connect settings; return .entered
  | .exit => do Suspended.disconnect; return .nothing
  | .execute statement parameters =>
      return .result (← Suspended.execute settings statement parameters)
  | .useDatabase database => do Suspended.useDatabase settings database; return .nothing
  | .listTables database => return .names (← Suspended.listTables settings database)
  | .showDefinition database table =>
      return .definition (← Suspended.showDefinition settings database table)
  | .fetchTable database table => return .result (← Suspended.fetchTable settings database table)
  | .chunks options formatter database =>
      return .chunks (← Suspended.collectChunks settings options formatter database)
  | .dump options formatter database =>
      return .text (← Suspended.dump settings options formatter database)
  | .writeDump options formatter database path => do
      Suspended.writeDump settings options formatter database path
      return .nothing
  | .restore script database => return .count (← Suspended.restore settings script database)
  | .restoreFile path database => return .count (← Suspended.restoreFile settings path database)

/-- The two ways in which operations wait for answers. -/
inductive Waiting where
  | blocking
  | suspended
  deriving DecidableEq, Repr

/-- Runs an operation on a session. -/
def Session.perform (session : Session) (waiting : Waiting) (settings : Settings)
    (operation : Operation) : Except Failure Outcome × Session :=
  match waiting with
  | .blocking => (operation.blocking settings).run session
  | .suspended => (operation.suspended settings).run session

/-- Runs operations one after another, whatever they end with. -/
def Session.performAll (session : Session) (waiting : Waiting) (settings : Settings) :
    List Operation → List (Except Failure Outcome) × Session
  | [] => ([], session)
  | operation :: rest =>
      let (outcome, after) := session.perform waiting settings operation
      let (outcomes, last) := after.performAll waiting settings rest
      (outcome :: outcomes, last)

end SqlDump
