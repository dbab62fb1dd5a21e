import SqlDump.Server.Request

/-!
# Scripted servers

A scripted server has its answers laid down in advance: one entry for each attempt
to connect, one for each cursor, and one for each connection that is closed. Where
an entry is missing everything succeeds and there are no rows. The wire adds the
history of the calls that were made.
-/

namespace SqlDump.Server

/-- What a scripted server does with one cursor. -/
structure CursorScript where
  openFault : Option Fault := none
  executeFault : Option Fault := none
  fetchFault : Option Fault := none
  closeFault : Option Fault := none
  reply : Reply := {}
  rows : List (List Client.Raw) := []
  deriving Repr

/-- The answers of a scripted server: faults of the attempts to connect, what the
cursors do, faults of closing connections, and what the open cursor does. -/
structure Script where
  connects : List (Option Fault) := []
  cursors : List CursorScript := []
  disconnects : List (Option Fault) := []
  current : CursorScript := {}
  deriving Repr

/-- An answer that is a fault where there is one. -/
def orFault {α : Type} (fault : Option Fault) (answer : α) : Except Fault α :=
  match fault with
  | some fault => .error fault
  | none => .ok answer

/-- The answer to a call, and the script for the calls after it. -/
def Script.answer (script : Script) : (request : Request) → request.Answer × Script
  | .connect _ =>
      (orFault script.connects.head?.join (), { script with connects := script.connects.tail })
  | .openCursor =>
      let current := script.cursors.head?.getD {}
      (orFault current.openFault (), { script with cursors := script.cursors.tail, current })
  | .execute _ _ => (orFault script.current.executeFault script.current.reply, script)
  | .fetchAll => (orFault script.current.fetchFault script.current.rows, script)
  | .closeCursor => (orFault script.current.closeFault (), script)
  | .disconnect =>
      (orFault script.disconnects.head?.join (),
        { script with disconnects := script.disconnects.tail })

/-- A scripted server with the calls that were made, latest first. -/
structure Wire where
  script : Script
  history : List Event := []
  deriving Repr

namespace Wire

/-- Makes a call: its answer, and the wire with the call in its history. -/
def call (wire : Wire) (request : Request) : request.Answer × Wire :=
  let (answer, script) := wire.script.answer request
  (answer,
    { script, history := { request, succeeded := request.succeeded answer } :: wire.history })

/-- The calls that were made, in order. -/
def events (wire : Wire) : List Event :=
  wire.history.reverse

end Wire

/-! ## Counting connections and cursors -/

namespace Event

/-- What a call changes in the number of open connections. -/
def connectionChange (event : Event) : Int :=
  match event.request with
  | .connect _ => if event.succeeded then 1 else 0
  | .disconnect => if event.succeeded then -1 else 0
  | _ => 0

/-- What a call changes in the number of cursors that wait to be closed. -/
def cursorChange (event : Event) : Int :=
  match event.request with
  | .openCursor => if event.succeeded then 1 else 0
  | .closeCursor => -1
  | _ => 0

end Event

/-- The connections that are open after calls, given latest first. -/
def openConnections : (history : List Event) → Int
  | [] => 0
  | event :: earlier => event.connectionChange + openConnections earlier

/-- The cursors that wait to be closed after calls, given latest first. -/
def openCursors : (history : List Event) → Int
  | [] => 0
  | event :: earlier => event.cursorChange + openCursors earlier

end SqlDump.Server
