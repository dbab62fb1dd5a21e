import SqlDump.Proofs.Restore.Progress
import SqlDump.Proofs.Session.Contact
import SqlDump.Proofs.Session.Sequence

/-!
# The course of operations

What an operation does to the contact with the server is read off how it is made. Behind the
call that hands out a cursor there are statements and the call that closes it, whatever the
answers are; a connection is made only where none is attached, by all operations but the two
that connect at once. The attached connection is given up by the two that disconnect; what all
others do are errands.

Main statements: `connect_run_of_refused` and `connect_run_of_accepted` for a connection,
`follows_operation` for an operation that looks whether one is attached, and
`Session.perform_course` for all of them.
-/

namespace SqlDump

open Server Dump

/-- The fault with which the server refuses the next connection, if it does. -/
def Session.refusal? (session : Session) : Option Fault :=
  session.wire.script.connects.head?.join

/-- The fault with which the server answers the next attempt to close a connection, if it
does. -/
def Server.Script.closingFault? (script : Script) : Option Fault :=
  script.disconnects.head?.join

/-- The session behind a connection that the server accepts. -/
def Session.linked (session : Session) (settings : Settings) : Session :=
  { context := { session.context with attached := true }
    wire := (session.wire.call (.connect settings.connectionArguments)).2 }

/-- The session behind a connection that was closed. -/
def Session.parted (session : Session) : Session :=
  Session.noted
    { context := { session.context with attached := false }
      wire := (session.wire.call .disconnect).2 }
    .backend .info Notice.disconnected

theorem Session.contact_behind (session : Session) (request : Request) :
    (session.behind request).contact =
      session.contact.behind request (request.succeeded (session.wire.script.answer request).1) :=
  rfl

theorem Session.answer_connect (session : Session) (arguments : List (Text × Argument)) :
    (session.wire.script.answer (.connect arguments)).1 = orFault session.refusal? () := rfl

theorem Session.contact_behind_of_refused {session : Session} {fault : Fault}
    (refused : session.refusal? = some fault) (arguments : List (Text × Argument)) :
    (session.behind (.connect arguments)).contact =
      session.contact.behind (.connect arguments) false := by
  rw [contact_behind, answer_connect, refused]
  rfl

theorem Session.contact_linked_of_accepted {session : Session} (accepted : session.refusal? = none)
    (settings : Settings) :
    (session.linked settings).contact =
      session.contact.linked settings.connectionArguments := by
  have answer := session.answer_connect settings.connectionArguments
  rw [accepted] at answer
  simp only [linked, contact, Contact.linked, Wire.call, answer]
  rfl

theorem Session.answer_disconnect (session : Session) :
    (session.wire.script.answer .disconnect).1 = orFault session.wire.script.closingFault? () := rfl

theorem Session.contact_parted {session : Session}
    (closes : session.wire.script.closingFault? = none) :
    session.parted.contact = session.contact.parted := by
  have answer := session.answer_disconnect
  rw [closes] at answer
  simp only [parted, noted, Context.log, contact, Contact.parted, Wire.call, answer]
  rfl

namespace Blocking

variable {α β : Type}

/-- Whether an operation changes the contact with the server in a certain way, whatever it
ends with. -/
structure Moves (change : Contact → Contact → Prop) (operation : Blocking α) : Prop where
  moves : ∀ session, change session.contact (operation session).2.contact

/-- Whether an operation leaves the contact with the server alone. -/
abbrev Quiet (operation : Blocking α) : Prop :=
  Moves (fun contact after => after = contact) operation

/-- Whether an operation that starts on an open cursor closes it. -/
abbrev ClosesCursor (operation : Blocking α) : Prop :=
  Moves Contact.Closes operation

/-- Whether an operation takes a course of strides. -/
abbrev Follows (operation : Blocking α) : Prop :=
  Moves Contact.Course operation

/-- Whether an operation does errands, so that an attached connection stays attached. -/
abbrev DoesErrands (operation : Blocking α) : Prop :=
  Moves Contact.Errands operation

section Making

variable {change : Contact → Contact → Prop}

theorem moves_ite {condition : Prop} [Decidable condition] {yes no : Blocking α}
    (yesMoves : Moves change yes) (noMoves : Moves change no) :
    Moves change (if condition then yes else no) := by
  split
  · exact yesMoves
  · exact noMoves

theorem moves_log_bind {source : LogSource} {level : LogLevel} {message : Text}
    {next : Unit → Blocking α} (nextMoves : Moves change (next ())) :
    Moves change (log source level message >>= next) :=
  ⟨fun session => nextMoves.moves (session.noted source level message)⟩

theorem moves_context_bind {next : Context → Blocking α}
    (nextMoves : ∀ current, Moves change (next current)) :
    Moves change (context >>= next) :=
  ⟨fun session => (nextMoves session.context).moves session⟩

end Making

/-! ## Operations without calls -/

theorem quiet_pure (value : α) : Quiet (pure value) :=
  ⟨fun _ => rfl⟩

theorem quiet_fail (failure : Failure) : Quiet (fail failure : Blocking α) :=
  ⟨fun _ => rfl⟩

theorem quiet_log (source : LogSource) (level : LogLevel) (message : Text) :
    Quiet (log source level message) :=
  ⟨fun _ => rfl⟩

theorem quiet_ofExcept (outcome : Except Failure α) : Quiet (ofExcept outcome) := by
  cases outcome with
  | ok value => exact quiet_pure value
  | error failure => exact quiet_fail failure

theorem Quiet.andThen {first : Blocking α} {second : α → Blocking β} (firstQuiet : Quiet first)
    (secondQuiet : ∀ value, Quiet (second value)) : Quiet (first >>= second) := by
  constructor
  intro session
  have same := firstQuiet.moves session
  rw [bind_apply]
  cases ran : first session with
  | mk result between =>
      rw [ran] at same
      cases result with
      | error failure => exact same
      | ok value => exact ((secondQuiet value).moves between).trans same

theorem quiet_orFail_bind {failure : Fault → Failure} {answer : Except Fault α}
    {next : α → Blocking β} (nextQuiet : ∀ value, Quiet (next value)) :
    Quiet (orFail failure answer >>= next) := by
  cases answer with
  | ok value => exact nextQuiet value
  | error fault => exact quiet_fail _

/-! ## Visits to cursors -/

theorem closesCursor_close {next : Request.closeCursor.Answer → Blocking α}
    (nextQuiet : ∀ answer, Quiet (next answer)) : ClosesCursor (call .closeCursor >>= next) := by
  constructor
  intro session
  rw [bind_run_of_eq_ok (call_run _ _), (nextQuiet _).moves, Session.contact_behind]
  exact .close _ _

theorem closesCursor_statement {request : Request} (statement : request.IsStatement)
    {next : request.Answer → Blocking α} (nextCloses : ∀ answer, ClosesCursor (next answer)) :
    ClosesCursor (call request >>= next) := by
  constructor
  intro session
  rw [bind_run_of_eq_ok (call_run _ _)]
  exact .use statement _ ((nextCloses _).moves (session.behind request))

/-- A statement on the open cursor leaves it open for what follows, with or without a fault. -/
theorem closesCursor_fetch {statement : Prepared} {parameters : List Client.Raw}
    {next : Except Fault Result → Blocking α}
    (nextCloses : ∀ fetched, ClosesCursor (next fetched)) :
    ClosesCursor (fetch statement parameters >>= next) := by
  unfold fetch
  rw [bind_assoc]
  apply closesCursor_statement (.execute statement parameters)
  intro answer
  cases answer with
  | error fault => exact nextCloses _
  | ok reply =>
      dsimp only
      cases reply.description with
      | none => exact nextCloses _
      | some columns =>
          dsimp only
          rw [bind_assoc]
          apply closesCursor_statement .fetchAll
          intro fetched
          cases fetched with
          | error fault => exact nextCloses _
          | ok rows => exact nextCloses _

/-- An operation that asks for a cursor and then closes it visits one. -/
theorem moves_visit {failure : Fault → Failure} {next : Unit → Blocking α}
    (nextCloses : ClosesCursor (next ())) :
    Moves Contact.Visit (call .openCursor >>= fun opened => orFail failure opened >>= next) := by
  constructor
  intro session
  have moved := session.contact_behind .openCursor
  rw [bind_run_of_eq_ok (call_run _ _)]
  cases answered : (session.wire.script.answer .openCursor).1 with
  | error fault =>
      rw [answered] at moved
      exact moved ▸ .refused session.contact
  | ok opened =>
      rw [answered] at moved
      have closes := nextCloses.moves (session.behind .openCursor)
      rw [moved] at closes
      exact .closed closes

theorem moves_setTimezone (settings : Settings) :
    Moves Contact.Visit (setTimezone settings) := by
  apply moves_visit
  apply closesCursor_statement (.execute ..)
  intro answer
  cases answer with
  | ok reply =>
      apply closesCursor_close
      intro closed
      exact quiet_orFail_bind fun _ => quiet_pure ()
  | error fault =>
      have closing : ClosesCursor (do
          orFail .ofConnect (← call .closeCursor)
          if !fault.isClient then fail (.raised fault)) := by
        apply closesCursor_close
        intro closed
        apply quiet_orFail_bind
        intro _
        exact moves_ite (quiet_fail _) (quiet_pure ())
      exact moves_ite (moves_log_bind closing) closing

/-! ## Steps one after another -/

section Steps

variable {step : Contact → Contact → Prop}

theorem Quiet.steps {operation : Blocking α} (quiet : Quiet operation) :
    Moves (Relation.ReflTransGen step) operation := by
  constructor
  intro session
  rw [quiet.moves session]

theorem Moves.andThen {first : Blocking α} {second : α → Blocking β}
    (firstMoves : Moves (Relation.ReflTransGen step) first)
    (secondMoves : ∀ value, Moves (Relation.ReflTransGen step) (second value)) :
    Moves (Relation.ReflTransGen step) (first >>= second) := by
  constructor
  intro session
  have early := firstMoves.moves session
  rw [bind_apply]
  cases ran : first session with
  | mk result between =>
      rw [ran] at early
      cases result with
      | error failure => exact early
      | ok value => exact early.trans ((secondMoves value).moves between)

/-- What an operation returns of the value of another one does not matter to its steps. -/
theorem Moves.returning {first : Blocking α} (firstMoves : Moves (Relation.ReflTransGen step) first)
    (result : α → β) :
    Moves (Relation.ReflTransGen step) (first >>= fun value => pure (result value)) :=
  firstMoves.andThen fun _ => (quiet_pure _).steps

theorem Moves.attempt {operation : Blocking α}
    (operationMoves : Moves (Relation.ReflTransGen step) operation) :
    Moves (Relation.ReflTransGen step) operation.attempt :=
  ⟨operationMoves.moves⟩

end Steps

theorem errands_of_visit {operation : Blocking α} (visits : Moves Contact.Visit operation) :
    DoesErrands operation :=
  ⟨fun session => .single (.visit (visits.moves session))⟩

theorem DoesErrands.follows {operation : Blocking α} (errands : DoesErrands operation) :
    Follows operation :=
  ⟨fun session => (errands.moves session).course⟩

/-! ## Connections -/

/-- What follows a connection that the server accepted. -/
def settle (settings : Settings) : Blocking Unit := do
  if settings.timezone.isTruthy then setTimezone settings
  log .backend .info (Notice.connected settings)

theorem errands_settle (settings : Settings) : DoesErrands (settle settings) :=
  moves_ite ((errands_of_visit (moves_setTimezone settings)).andThen
    fun _ => (quiet_log ..).steps) (quiet_log ..).steps

theorem connect_run_of_refused {session : Session} {fault : Fault}
    (refused : session.refusal? = some fault) (settings : Settings) :
    connect settings session =
      (.error (.ofConnect fault), session.behind (.connect settings.connectionArguments)) := by
  rw [connect, bind_run_of_eq_ok (call_run _ _), session.answer_connect, refused]
  rfl

theorem connect_run_of_accepted {session : Session} (accepted : session.refusal? = none)
    (settings : Settings) :
    connect settings session = settle settings (session.linked settings) := by
  rw [connect, bind_run_of_eq_ok (call_run _ _), session.answer_connect, accepted]
  rfl

/-- A connection is refused, or it is made and settled. -/
theorem connect_contact (settings : Settings) (session : Session) :
    session.refusal?.isSome = true ∧
        (connect settings session).2.contact =
          session.contact.behind (.connect settings.connectionArguments) false ∨
      session.refusal? = none ∧
        Contact.Errands (session.contact.linked settings.connectionArguments)
          (connect settings session).2.contact := by
  cases refusal : session.refusal? with
  | some fault =>
      rw [connect_run_of_refused refusal]
      exact .inl ⟨rfl, session.contact_behind_of_refused refusal _⟩
  | none =>
      have errands := (errands_settle settings).moves (session.linked settings)
      rw [Session.contact_linked_of_accepted refusal, ← connect_run_of_accepted refusal] at errands
      exact .inr ⟨rfl, errands⟩

/-- Where no connection is attached, connecting is an errand. -/
theorem connect_errands {session : Session} (detached : session.context.attached = false)
    (settings : Settings) :
    Contact.Errands session.contact (connect settings session).2.contact := by
  rcases connect_contact settings session with ⟨-, refused⟩ | ⟨-, settled⟩
  · rw [refused]
    exact .single (.refused detached _)
  · exact .head (.linked detached _) settled

theorem disconnect_run_of_detached {session : Session}
    (detached : session.context.attached = false) : disconnect session = (.ok (), session) := by
  rw [disconnect, bind_run_of_eq_ok (context_run session), detached]
  rfl

theorem disconnect_run_of_attached {session : Session} (attached : session.context.attached = true)
    (closes : session.wire.script.closingFault? = none) :
    disconnect session = (.ok (), session.parted) := by
  rw [disconnect, bind_run_of_eq_ok (context_run session), if_pos attached,
    bind_run_of_eq_ok (call_run _ _), session.answer_disconnect, closes]
  rfl

/-- A connection that cannot be closed stays attached. -/
theorem disconnect_run_of_kept {session : Session} {fault : Fault}
    (attached : session.context.attached = true)
    (kept : session.wire.script.closingFault? = some fault) :
    disconnect session = (.error (.raised fault), session.behind .disconnect) := by
  rw [disconnect, bind_run_of_eq_ok (context_run session), if_pos attached,
    bind_run_of_eq_ok (call_run _ _), session.answer_disconnect, kept]
  rfl

theorem follows_disconnect : Follows disconnect := by
  constructor
  intro session
  cases attached : session.context.attached with
  | false =>
      rw [disconnect_run_of_detached attached]
  | true =>
      cases closing : session.wire.script.closingFault? with
      | none =>
          rw [disconnect_run_of_attached attached closing, Session.contact_parted closing]
          exact .single (.parted attached)
      | some fault =>
          rw [disconnect_run_of_kept attached closing, Session.contact_behind,
            session.answer_disconnect, closing]
          exact .single (.kept session.contact)

theorem errands_ensureConnection (settings : Settings) :
    DoesErrands (ensureConnection settings) := by
  constructor
  intro session
  rw [ensureConnection, bind_run_of_eq_ok (context_run session)]
  cases attached : session.context.attached with
  | true => exact .refl
  | false =>
      have stillDetached :
          (session.noted .backend .debug Notice.reconnecting).context.attached = false := attached
      exact connect_errands stillDetached settings

/-! ## Statements -/

theorem errands_execute (settings : Settings) (statement : Text) (parameters : List Client.Raw) :
    DoesErrands (execute settings statement parameters) := by
  apply (errands_ensureConnection settings).andThen
  intro _
  apply moves_log_bind
  apply (quiet_ofExcept _).steps.andThen
  intro prepared
  apply errands_of_visit
  apply moves_visit
  apply closesCursor_fetch
  intro fetched
  have closing : ClosesCursor (conclude fetched) := by
    apply closesCursor_close
    intro closed
    apply quiet_orFail_bind
    intro _
    apply quiet_orFail_bind
    intro result
    exact moves_log_bind (quiet_pure result)
  cases fetched with
  | ok result => exact closing
  | error fault => exact moves_ite (moves_log_bind closing) closing

theorem errands_useDatabase (settings : Settings) (database : Text) :
    DoesErrands (useDatabase settings database) :=
  (errands_execute ..).returning _

theorem errands_listTables (settings : Settings) (database : Text) :
    DoesErrands (listTables settings database) :=
  (errands_execute ..).andThen fun _ => (quiet_ofExcept _).steps

theorem errands_showDefinition (settings : Settings) (database table : Text) :
    DoesErrands (showDefinition settings database table) :=
  (errands_execute ..).andThen fun _ => (quiet_ofExcept _).steps

theorem errands_fetchTable (settings : Settings) (database table : Text) :
    DoesErrands (fetchTable settings database table) :=
  errands_execute ..

/-! ## Scripts -/

theorem quiet_reportFailure (index total : Nat) (statement : Text) (failure : Failure) :
    Quiet (reportFailure index total statement failure) :=
  moves_ite (moves_log_bind (quiet_fail _)) (quiet_fail _)

theorem errands_executeFrom (settings : Settings) (total index : Nat) (statements : List Text) :
    DoesErrands (executeFrom settings total index statements) := by
  induction statements generalizing index with
  | nil => exact (quiet_pure ()).steps
  | cons statement rest hypothesis =>
      apply (errands_execute settings statement []).attempt.andThen
      intro outcome
      cases outcome with
      | ok result => exact hypothesis (index + 1)
      | error failure => exact (quiet_reportFailure ..).steps

theorem errands_restore (settings : Settings) (script : Text) (database : Option Text) :
    DoesErrands (restore settings script database) := by
  have execution : DoesErrands (executeAll settings (Script.statements script)) := by
    apply moves_log_bind
    apply (errands_executeFrom ..).andThen
    intro _
    exact moves_log_bind (quiet_pure _).steps
  unfold restore
  cases database.filter (!·.isEmpty) with
  | none => exact execution
  | some name => exact (errands_useDatabase settings name).andThen fun _ => execution

theorem errands_restoreFile (settings : Settings) (path : Text) (database : Option Text) :
    DoesErrands (restoreFile settings path database) := by
  apply moves_log_bind
  apply moves_context_bind
  intro current
  exact (quiet_ofExcept _).steps.andThen fun script => errands_restore settings script database

/-! ## Dumps -/

section Dumps

variable (settings : Settings) (options : DumpOptions) (formatter : Formatter) (database : Text)

theorem errands_tableChunks (table : Text) :
    DoesErrands (tableChunks settings options formatter database table) := by
  unfold tableChunks
  apply (errands_showDefinition ..).andThen
  intro definition
  apply moves_ite
  · apply (errands_fetchTable ..).andThen
    intro result
    apply moves_log_bind
    exact (quiet_ofExcept _).steps.returning _
  · exact (quiet_pure _).steps

theorem errands_tablesChunks (tables : List Text) :
    DoesErrands (tablesChunks settings options formatter database tables) := by
  induction tables with
  | nil => exact (quiet_pure []).steps
  | cons table rest hypothesis =>
      apply (errands_tableChunks settings options formatter database table).andThen
      intro first
      exact hypothesis.returning _

theorem errands_dumpChunks : DoesErrands (dumpChunks settings options formatter database) := by
  apply (errands_listTables settings database).andThen
  intro tables
  exact (errands_tablesChunks settings options formatter database tables).returning _

theorem quiet_writeFile (path : Text) (chunks : List Text) : Quiet (writeFile path chunks) := by
  apply moves_context_bind
  intro current
  have filesOnly (files : Files) : Quiet (modify fun context => { context with files }) :=
    ⟨fun _ => rfl⟩
  exact (filesOnly _).andThen fun _ => quiet_ofExcept _

theorem errands_writeDump (path : Text) :
    DoesErrands (writeDump settings options formatter database path) := by
  apply moves_log_bind
  apply (errands_dumpChunks settings options formatter database).andThen
  intro chunks
  exact ((quiet_writeFile path chunks).andThen fun _ => quiet_log ..).steps

end Dumps

end Blocking

/-! ## Operations of a session -/

/-- Whether an operation makes a connection without a look at whether one is attached. -/
def Operation.connects : Operation → Bool
  | .connect | .enter => true
  | _ => false

open Blocking in
/-- An operation that looks whether a connection is attached takes a course. -/
theorem follows_operation (settings : Settings) {operation : Operation}
    (looks : operation.connects = false) : Follows (operation.blocking settings) := by
  cases operation with
  | connect => cases looks
  | enter => cases looks
  | disconnect => exact follows_disconnect.returning _
  | exit => exact follows_disconnect.returning _
  | execute statement parameters => exact (errands_execute ..).follows.returning _
  | useDatabase database => exact (errands_useDatabase ..).follows.returning _
  | listTables database => exact (errands_listTables ..).follows.returning _
  | showDefinition database table => exact (errands_showDefinition ..).follows.returning _
  | fetchTable database table => exact (errands_fetchTable ..).follows.returning _
  | chunks options formatter database => exact (errands_dumpChunks ..).follows.returning _
  | dump options formatter database =>
      exact ((errands_dumpChunks ..).follows.returning _).returning _
  | writeDump options formatter database path => exact (errands_writeDump ..).follows.returning _
  | restore script database => exact (errands_restore ..).follows.returning _
  | restoreFile path database => exact (errands_restoreFile ..).follows.returning _

/-- An operation that connects at once ends where connecting does, and fails as it does. -/
theorem Operation.blocking_of_connects {operation : Operation}
    (connects : operation.connects = true) (settings : Settings) (session : Session) :
    ∃ outcome, operation.blocking settings session =
      ((Blocking.connect settings session).1.map fun _ => outcome,
        (Blocking.connect settings session).2) := by
  have returning (outcome : Outcome) :
      (Blocking.connect settings >>= fun _ => pure outcome) session =
        ((Blocking.connect settings session).1.map fun _ => outcome,
          (Blocking.connect settings session).2) := by
    rw [Blocking.bind_apply]
    cases Blocking.connect settings session with
    | mk result after => cases result <;> rfl
  cases operation with
  | connect => exact ⟨.nothing, returning .nothing⟩
  | enter => exact ⟨.entered, returning .entered⟩
  | _ => cases connects

namespace Session

/-- Whether an operation makes a connection while another one is attached. -/
def reconnects (session : Session) (operation : Operation) : Bool :=
  operation.connects && session.context.attached && session.refusal?.isNone

/-- The contact from which an operation takes its course: with another connection in place
of the attached one where it reconnects. -/
def departure (session : Session) (settings : Settings) (operation : Operation) : Contact :=
  if session.reconnects operation then session.contact.linked settings.connectionArguments
  else session.contact

theorem perform_course (session : Session) (waiting : Waiting) (settings : Settings)
    (operation : Operation) :
    Contact.Course (session.departure settings operation)
      (session.perform waiting settings operation).2.contact := by
  rw [perform_eq, departure, reconnects]
  cases connects : operation.connects with
  | false => exact (follows_operation settings connects).moves session
  | true =>
      obtain ⟨outcome, ran⟩ := Operation.blocking_of_connects connects settings session
      rw [ran]
      cases attached : session.context.attached with
      | false => exact (Blocking.connect_errands attached settings).course
      | true =>
          rcases Blocking.connect_contact settings session with
            ⟨refused, same⟩ | ⟨accepted, settled⟩
          · cases refusal : session.refusal? with
            | none => simp [refusal] at refused
            | some fault => exact same ▸ .single (.refused ..)
          · rw [accepted]
            exact settled.course

end Session

end SqlDump
