import SqlDump.Dump.Blocking
import SqlDump.Proofs.Session.Run

/-!
# What operations on the server touch

An operation on the server makes calls, writes records, attaches the connection it has
made, and looks at whether one is attached. It touches nothing else of a session, so what
such operations leave alone is proved by induction on how one is made.

Main statements: `onServer_execute` for statements, `onServer_dumpChunks` for the sections
of a dump, and `OnServer.files_eq` for the files.
-/

namespace SqlDump.Blocking

open Server Dump

variable {α β : Type}

/-- How an operation on the server is made. -/
inductive OnServer : {α : Type} → Blocking α → Prop
  | done {α : Type} (value : α) : OnServer (done value)
  | fail {α : Type} (failure : Failure) : OnServer (fail failure : Blocking α)
  | andThen {α β : Type} {first : Blocking α} {second : α → Blocking β}
      (firstMade : OnServer first) (secondMade : ∀ value, OnServer (second value)) :
      OnServer (first >>= second)
  | log (source : LogSource) (level : LogLevel) (message : Text) :
      OnServer (log source level message)
  | call (request : Request) : OnServer (call request)
  | setAttached (attached : Bool) : OnServer (modify ({ · with attached }))
  | byAttached {α : Type} {next : Bool → Blocking α} (made : ∀ attached, OnServer (next attached)) :
      OnServer (context >>= fun current => next current.attached)

/-- The files are left alone. -/
theorem OnServer.files_eq {operation : Blocking α} (made : OnServer operation)
    (session : Session) :
    (operation session).2.context.files = session.context.files := by
  induction made generalizing session with
  | done value => rfl
  | fail failure => rfl
  | andThen firstMade secondMade firstKeeps secondKeeps =>
      rename_i first second
      have kept := firstKeeps session
      rw [bind_apply]
      cases firstRan : first session with
      | mk result between =>
          rw [firstRan] at kept
          cases result with
          | error failure => exact kept
          | ok value => exact (secondKeeps value between).trans kept
  | log source level message => rfl
  | call request => rfl
  | setAttached attached => rfl
  | byAttached made keeps => exact keeps session.context.attached session

theorem onServer_ofExcept (outcome : Except Failure α) : OnServer (ofExcept outcome) := by
  cases outcome with
  | ok value => exact .done value
  | error failure => exact .fail failure

theorem onServer_orFail (failure : Fault → Failure) (answer : Except Fault α) :
    OnServer (orFail failure answer) := by
  cases answer with
  | ok value => exact .done value
  | error fault => exact .fail _

theorem onServer_ite {condition : Prop} [Decidable condition] {yes no : Blocking α}
    (yesMade : OnServer yes) (noMade : OnServer no) :
    OnServer (if condition then yes else no) := by
  split
  · exact yesMade
  · exact noMade

/-! ## Statements -/

theorem onServer_setTimezone (settings : Settings) : OnServer (setTimezone settings) := by
  unfold setTimezone
  apply (OnServer.call _).andThen
  intro opened
  apply (onServer_orFail _ opened).andThen
  intro _
  apply (OnServer.call _).andThen
  intro answer
  cases answer with
  | ok reply =>
      apply (OnServer.call _).andThen
      intro closed
      exact (onServer_orFail _ closed).andThen fun _ => .done ()
  | error fault =>
      have closing : OnServer (do
          orFail .ofConnect (← Blocking.call .closeCursor)
          if !fault.isClient then Blocking.fail (.raised fault)) := by
        apply (OnServer.call _).andThen
        intro closed
        apply (onServer_orFail _ closed).andThen
        intro _
        exact onServer_ite (.fail _) (.done ())
      exact onServer_ite ((OnServer.log ..).andThen fun _ => closing) closing

theorem onServer_connect (settings : Settings) : OnServer (connect settings) := by
  unfold connect
  apply (OnServer.call _).andThen
  intro answer
  apply (onServer_orFail _ answer).andThen
  intro _
  apply (OnServer.setAttached true).andThen
  intro _
  exact onServer_ite ((onServer_setTimezone settings).andThen fun _ => .log ..) (.log ..)

theorem onServer_ensureConnection (settings : Settings) :
    OnServer (ensureConnection settings) := by
  have reconnecting (attached : Bool) : OnServer (do
      if !attached then
        Blocking.log .backend .debug Notice.reconnecting
        connect settings) :=
    onServer_ite ((OnServer.log ..).andThen fun _ => onServer_connect settings) (.done ())
  exact OnServer.byAttached reconnecting

theorem onServer_fetch (statement : Prepared) (parameters : List Client.Raw) :
    OnServer (fetch statement parameters) := by
  unfold fetch
  apply (OnServer.call _).andThen
  intro answer
  cases answer with
  | error fault => exact .done _
  | ok reply =>
      dsimp only
      cases reply.description with
      | none => exact .done _
      | some columns =>
          apply (OnServer.call _).andThen
          intro fetched
          cases fetched with
          | error fault => exact .done _
          | ok rows => exact .done _

theorem onServer_execute (settings : Settings) (statement : Text)
    (parameters : List Client.Raw) : OnServer (execute settings statement parameters) := by
  unfold execute
  apply (onServer_ensureConnection settings).andThen
  intro _
  apply (OnServer.log ..).andThen
  intro _
  apply (onServer_ofExcept _).andThen
  intro prepared
  apply (OnServer.call _).andThen
  intro opened
  apply (onServer_orFail _ opened).andThen
  intro _
  apply (onServer_fetch _ _).andThen
  intro fetched
  have closing : OnServer (conclude fetched) := by
    apply (OnServer.call _).andThen
    intro closed
    apply (onServer_orFail _ closed).andThen
    intro _
    apply (onServer_orFail _ fetched).andThen
    intro result
    exact (OnServer.log ..).andThen fun _ => .done result
  cases fetched with
  | ok result => exact closing
  | error fault => exact onServer_ite ((OnServer.log ..).andThen fun _ => closing) closing

/-! ## Questions about tables -/

theorem onServer_listTables (settings : Settings) (database : Text) :
    OnServer (listTables settings database) :=
  (onServer_execute ..).andThen fun _ => onServer_ofExcept _

theorem onServer_showDefinition (settings : Settings) (database table : Text) :
    OnServer (showDefinition settings database table) :=
  (onServer_execute ..).andThen fun _ => onServer_ofExcept _

theorem onServer_fetchTable (settings : Settings) (database table : Text) :
    OnServer (fetchTable settings database table) :=
  onServer_execute ..

/-! ## Sections of a dump -/

section Sections

variable (settings : Settings) (options : DumpOptions) (formatter : Formatter) (database : Text)

theorem onServer_tableChunks (table : Text) :
    OnServer (tableChunks settings options formatter database table) := by
  unfold tableChunks
  apply (onServer_showDefinition ..).andThen
  intro definition
  apply onServer_ite
  · apply (onServer_fetchTable ..).andThen
    intro result
    apply (OnServer.log ..).andThen
    intro _
    exact (onServer_ofExcept _).andThen fun _ => .done _
  · exact .done _

theorem onServer_tablesChunks (tables : List Text) :
    OnServer (tablesChunks settings options formatter database tables) := by
  induction tables with
  | nil => exact .done []
  | cons table rest hypothesis =>
      apply (onServer_tableChunks settings options formatter database table).andThen
      intro first
      exact hypothesis.andThen fun _ => .done _

theorem onServer_dumpChunks : OnServer (dumpChunks settings options formatter database) := by
  apply (onServer_listTables settings database).andThen
  intro tables
  exact (onServer_tablesChunks settings options formatter database tables).andThen fun _ => .done _

end Sections

end SqlDump.Blocking
