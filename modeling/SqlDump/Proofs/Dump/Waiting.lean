import SqlDump.Proofs.Session.Run
import SqlDump.Proofs.Session.Waiting

/-!
# Two ways of waiting for a dump

The suspended operation collects the sections of a dump one table after another, and the
blocking one puts those of a table in front of those of the others. The sections are the
same and so is the file.

Main statements: `agrees_collectChunks` for the sections, and `Session.perform_dump` and
`Session.perform_writeDump` for what a session performs.
-/

namespace SqlDump

open Server Dump

variable (settings : Settings) (options : DumpOptions) (formatter : Formatter) (database : Text)

/-- Collecting the sections of a table adds them to those that are there. -/
theorem agrees_collectTable (chunks : List Text) (table : Text) :
    Agrees (Suspended.collectTable settings options formatter database chunks table)
      (do
        let first ← Blocking.tableChunks settings options formatter database table
        return chunks ++ first) := by
  have withRows (made first : List Text) (added : made = chunks ++ first) : Agrees
      (if options.withData then do
        let result ← Suspended.fetchTable settings database table
        Suspended.log .dump .debug (Notice.dumpingRows result table)
        let data ← Suspended.ofExcept ((formatter.dataSection table result).mapError .row)
        return made ++ [data]
      else return made)
      ((if options.withData then do
        let result ← Blocking.fetchTable settings database table
        Blocking.log .dump .debug (Notice.dumpingRows result table)
        let data ← Blocking.ofExcept ((formatter.dataSection table result).mapError .row)
        return first ++ [data]
      else return first) >>= fun sections => pure (chunks ++ sections)) := by
    subst added
    cases options.withData with
    | true =>
        simp only [if_true, bind_assoc, pure_bind, ← List.append_assoc]
        apply (agrees_fetchTable ..).andThen
        intro result
        apply (agrees_log ..).andThen
        intro _
        exact (agrees_ofExcept _).andThen fun _ => agrees_pure _
    | false => exact agrees_pure _
  simp only [Suspended.collectTable, Blocking.tableChunks, bind_assoc]
  apply (agrees_showDefinition ..).andThen
  intro definition
  cases definition with
  | none => exact withRows chunks [] (List.append_nil chunks).symm
  | some definition => exact withRows _ [formatter.structureSection table definition] rfl

/-- Collecting the sections of tables one after another adds them all. -/
theorem agrees_collectTables (chunks tables : List Text) :
    Agrees (tables.foldlM (Suspended.collectTable settings options formatter database) chunks)
      (do
        let others ← Blocking.tablesChunks settings options formatter database tables
        return chunks ++ others) := by
  induction tables generalizing chunks with
  | nil =>
      have nothing :
          (do
            let others ← Blocking.tablesChunks settings options formatter database []
            return chunks ++ others : Blocking (List Text)) = pure (chunks ++ []) := rfl
      rw [nothing, List.append_nil]
      exact agrees_pure chunks
  | cons table rest hypothesis =>
      have regrouped :
          (do
            let others ← Blocking.tablesChunks settings options formatter database (table :: rest)
            return chunks ++ others : Blocking (List Text)) =
          (do
            let first ← Blocking.tableChunks settings options formatter database table
            return chunks ++ first) >>= fun made => (do
            let others ← Blocking.tablesChunks settings options formatter database rest
            return made ++ others) := by
        simp only [Blocking.tablesChunks, bind_assoc, pure_bind, List.append_assoc]
      rw [List.foldlM_cons, regrouped]
      have one := agrees_collectTable settings options formatter database chunks table
      exact one.andThen hypothesis

theorem agrees_collectChunks :
    Agrees (Suspended.collectChunks settings options formatter database)
      (Blocking.dumpChunks settings options formatter database) := by
  apply (agrees_listTables settings database).andThen
  intro tables
  have regrouped :
      (do
        let sections ← Blocking.tablesChunks settings options formatter database tables
        return formatter.header database :: sections ++ [Formatter.footer] :
        Blocking (List Text)) =
      ((do
        let sections ← Blocking.tablesChunks settings options formatter database tables
        return [formatter.header database] ++ sections) >>= fun chunks =>
        pure (chunks ++ [Formatter.footer])) := by
    simp only [bind_assoc, pure_bind, List.singleton_append]
  rw [regrouped]
  exact (agrees_collectTables ..).andThen fun _ => agrees_pure _

theorem agrees_dump :
    Agrees (Suspended.dump settings options formatter database)
      (Blocking.dump settings options formatter database) :=
  (agrees_collectChunks settings options formatter database).andThen fun _ => agrees_pure _

theorem agrees_writeFile (path : Text) (chunks : List Text) :
    Agrees (Suspended.writeFile path chunks) (Blocking.writeFile path chunks) := by
  apply agrees_context.andThen
  intro current
  exact (agrees_modify _).andThen fun _ => agrees_ofExcept _

theorem agrees_writeDump (path : Text) :
    Agrees (Suspended.writeDump settings options formatter database path)
      (Blocking.writeDump settings options formatter database path) := by
  apply (agrees_log ..).andThen
  intro _
  apply (agrees_collectChunks settings options formatter database).andThen
  intro chunks
  exact (agrees_writeFile path chunks).andThen fun _ => agrees_log ..

theorem agrees_dumpNowhere :
    Agrees (Suspended.dumpNowhere settings options formatter database)
      (Blocking.dumpNowhere settings options formatter database) := by
  apply (agrees_log ..).andThen
  intro _
  exact (agrees_collectChunks settings options formatter database).andThen fun _ => agrees_fail _

/-! ## Operations of a session -/

namespace Session

variable (session : Session) (waiting : Waiting)

theorem perform_dump :
    session.perform waiting settings (.dump options formatter database) =
      ((Blocking.dump settings options formatter database session).1.map .text,
        (Blocking.dump settings options formatter database session).2) :=
  (agrees_dump settings options formatter database).perform_eq rfl rfl session waiting

theorem perform_writeDump (path : Text) :
    session.perform waiting settings (.writeDump options formatter database path) =
      ((Blocking.writeDump settings options formatter database path session).1.map
          fun _ => .nothing,
        (Blocking.writeDump settings options formatter database path session).2) :=
  (agrees_writeDump settings options formatter database path).perform_eq rfl rfl session waiting

end Session

end SqlDump
