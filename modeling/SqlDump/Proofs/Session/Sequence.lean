import SqlDump.Proofs.Dump.Waiting

/-!
# Sequences of operations

Each operation ends alike in both ways of waiting, and leaves the same session to the next
one. So do sequences of operations: with the same results and failures, the same log, the
same files and the same calls in the same order.

Main statements: `Session.perform_eq` for one operation, and
`Session.performAll_suspended` for a sequence.
-/

namespace SqlDump

theorem agrees_operation (settings : Settings) (operation : Operation) :
    Agrees (operation.suspended settings) (operation.blocking settings) := by
  cases operation with
  | connect => exact (agrees_connect settings).andThen fun _ => agrees_pure _
  | disconnect => exact agrees_disconnect.andThen fun _ => agrees_pure _
  | enter => exact (agrees_connect settings).andThen fun _ => agrees_pure _
  | exit => exact agrees_disconnect.andThen fun _ => agrees_pure _
  | execute statement parameters =>
      exact (agrees_execute settings statement parameters).andThen fun _ => agrees_pure _
  | useDatabase database =>
      exact (agrees_useDatabase settings database).andThen fun _ => agrees_pure _
  | listTables database =>
      exact (agrees_listTables settings database).andThen fun _ => agrees_pure _
  | showDefinition database table =>
      exact (agrees_showDefinition settings database table).andThen fun _ => agrees_pure _
  | fetchTable database table =>
      exact (agrees_fetchTable settings database table).andThen fun _ => agrees_pure _
  | chunks options formatter database =>
      exact (agrees_collectChunks settings options formatter database).andThen
        fun _ => agrees_pure _
  | dump options formatter database =>
      exact (agrees_dump settings options formatter database).andThen fun _ => agrees_pure _
  | writeDump options formatter database path =>
      exact (agrees_writeDump settings options formatter database path).andThen
        fun _ => agrees_pure _
  | restore script database =>
      exact (agrees_restore settings script database).andThen fun _ => agrees_pure _
  | restoreFile path database =>
      exact (agrees_restoreFile settings path database).andThen fun _ => agrees_pure _

namespace Session

/-- In both ways of waiting an operation runs as the blocking one. -/
theorem perform_eq (session : Session) (waiting : Waiting) (settings : Settings)
    (operation : Operation) :
    session.perform waiting settings operation = operation.blocking settings session := by
  cases waiting with
  | blocking => rfl
  | suspended => exact (agrees_operation settings operation).run_eq session

/-- A sequence of suspended operations gives the results and the failures of the blocking
ones, and leaves the same session behind: the log, the files and the calls. -/
theorem performAll_suspended (session : Session) (settings : Settings)
    (operations : List Operation) :
    session.performAll .suspended settings operations =
      session.performAll .blocking settings operations := by
  induction operations generalizing session with
  | nil => rfl
  | cons operation rest hypothesis =>
      simp only [performAll, perform_eq, hypothesis]

end Session

end SqlDump
