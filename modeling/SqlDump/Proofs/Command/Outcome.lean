import SqlDump.Command.Run
import SqlDump.Proofs.Dump.Export
import SqlDump.Proofs.Session.Failure
import SqlDump.Proofs.Session.Success

/-!
# The outcome of a run

A task that needs the server works on a connection of its own. Whatever it fails with, the
connection is closed behind it, and the status tells whether the task is done: zero only where
every statement of a script was executed or the whole dump is in its file, one for a failure
of the library or of the operating system.

Main statements: `blockingTask_run` for the connection of a task, and `run_accounted` for a
run of the program.
-/

namespace SqlDump.Command

open Server Dump

/-! ## Command lines -/

/-- Whether a command line asks for an invocation whose log has a threshold. -/
structure Asks (environment : Environment) (arguments : List Text) (invocation : Invocation)
    (level : Int) : Prop where
  parsed : ∃ port, environment.port = .ok port ∧
    readInvocation environment port arguments = .ok invocation
  level : LogLevel.ofName? (Text.capitals invocation.logLevel) = some level

/-- Whether a task needs the server: an export or an import does. -/
def Task.needsServer : Task → Bool
  | .exportDump .. | .importScript .. => true
  | .splitScript _ => false

theorem run_of_asks {environment : Environment} {arguments : List Text} {invocation : Invocation}
    {level : Int} (asked : Asks environment arguments invocation level) (clock : Clock)
    (session : Session) :
    run environment clock arguments session = runTask clock invocation level session := by
  obtain ⟨port, portRead, invocationRead⟩ := asked.parsed
  simp only [run, portRead, invocationRead, asked.level]

/-! ## Tasks -/

section Tasks

variable (settings : Settings) (clock : Clock) (task : Task)

theorem agrees_work :
    Agrees (suspendedWork settings clock task) (blockingWork settings clock task) := by
  cases task with
  | exportDump database path withData withDrop mode =>
      cases path with
      | some path => exact agrees_writeDump ..
      | none => exact agrees_dumpNowhere ..
  | importScript path database =>
      exact (agrees_restoreFile settings path database).andThen fun _ => agrees_log ..
  | splitScript path => exact agrees_pure ()

/-- What a task does before its connection is closed. -/
def connectedWork : Blocking Unit := do
  Blocking.connect settings
  blockingWork settings clock task

theorem agrees_connectedWork :
    Agrees
      (do
        Suspended.connect settings
        suspendedWork settings clock task)
      (connectedWork settings clock task) :=
  (agrees_connect settings).andThen fun _ => agrees_work settings clock task

theorem agrees_task :
    Agrees (suspendedTask settings clock task) (blockingTask settings clock task) := by
  apply (agrees_connectedWork settings clock task).attempt.andThen
  intro outcome
  exact agrees_disconnect.andThen fun _ => agrees_ofExcept outcome

/-- In both ways of waiting a task runs as the blocking one. -/
theorem runTask_eq {invocation : Invocation} (needs : invocation.task.needsServer = true)
    (clock : Clock) (level : Int) (session : Session) :
    runTask clock invocation level session =
      finish level []
        (blockingTask (invocation.settings level) clock invocation.task session).1
        (blockingTask (invocation.settings level) clock invocation.task session).2 := by
  have suspendedRun :=
    (agrees_task (invocation.settings level) clock invocation.task).run_eq session
  unfold runTask
  cases task : invocation.task with
  | splitScript path =>
      rw [task] at needs
      cases needs
  | exportDump database path withData withDrop mode =>
      rw [task] at suspendedRun
      cases invocation.suspended with
      | true => simp only [if_true, suspendedRun]
      | false => rfl
  | importScript path database =>
      rw [task] at suspendedRun
      cases invocation.suspended with
      | true => simp only [if_true, suspendedRun]
      | false => rfl

end Tasks

/-! ## The connection of a task -/

/-- The calls of a task that connects once and, where it is connected, closes its connection
as the last thing it does. -/
inductive OneConnection (arguments : List (Text × Argument)) : List Event → Prop
  | refused : OneConnection arguments [⟨.connect arguments, false⟩]
  | closed {calls : List Event} (used : ∀ event ∈ calls, event.request.usesConnection = true) :
      OneConnection arguments
        (⟨.connect arguments, true⟩ :: calls ++ [⟨.disconnect, true⟩])

section Connection

variable (settings : Settings) (clock : Clock) (task : Task)

open Blocking

theorem errands_work : DoesErrands (blockingWork settings clock task) := by
  cases task with
  | exportDump database path withData withDrop mode =>
      cases path with
      | some path => exact errands_writeDump ..
      | none =>
          apply moves_log_bind
          exact (errands_dumpChunks ..).andThen fun _ => (quiet_fail _).steps
  | importScript path database =>
      exact (errands_restoreFile ..).andThen fun _ => (quiet_log ..).steps
  | splitScript path => exact (quiet_pure ()).steps

/-- Whether the server answers the first attempt to close a connection with the given fault,
if with any. -/
def ClosesWith (fault : Option Fault) (wire : Wire) : Prop :=
  (∀ event ∈ wire.history, event.request ≠ .disconnect) → wire.script.closingFault? = fault

theorem closesWith_call {fault : Option Fault} (wire : Wire) (request : Request)
    (closes : ClosesWith fault wire) : ClosesWith fault (wire.call request).2 := by
  intro unclosed
  obtain ⟨now, earlier⟩ := List.forall_mem_cons.mp unclosed
  cases request with
  | disconnect => exact absurd rfl now
  | connect arguments => exact closes earlier
  | openCursor => exact closes earlier
  | execute statement parameters => exact closes earlier
  | fetchAll => exact closes earlier
  | closeCursor => exact closes earlier

variable {script : Script} {files : Files}

theorem connectedWork_run_of_refused {fault : Fault}
    (refused : (Session.start script files).refusal? = some fault) :
    connectedWork settings clock task (Session.start script files) =
      (.error (.ofConnect fault),
        (Session.start script files).behind (.connect settings.connectionArguments)) := by
  rw [connectedWork, bind_run_of_eq_error (connect_run_of_refused refused settings)]

/-- On a connection that the server accepts a task stays to the end. -/
theorem sameConnection_connectedWork
    (accepted : (Session.start script files).refusal? = none) :
    ((Session.start script files).contact.linked settings.connectionArguments).SameConnection
      (connectedWork settings clock task (Session.start script files)).2.contact := by
  have errands : DoesErrands (settle settings >>= fun _ => blockingWork settings clock task) :=
    (errands_settle settings).andThen fun _ => errands_work settings clock task
  have same : connectedWork settings clock task (Session.start script files) =
      (settle settings >>= fun _ => blockingWork settings clock task)
        ((Session.start script files).linked settings) := by
    rw [connectedWork, bind_apply, connect_run_of_accepted accepted, ← bind_apply]
  rw [same, ← Session.contact_linked_of_accepted accepted]
  exact Contact.Errands.sameConnection (errands.moves _) rfl

variable {settings clock task} {outcome : Except Failure Unit} {between after : Session}

/-- Behind the work on a connection that the server accepts, it closes that one as it was going
to close the first. -/
theorem closingFault?_of_accepted (closes : script.closingFault? = none)
    (accepted : (Session.start script files).refusal? = none)
    (worked : connectedWork settings clock task (Session.start script files) =
      (outcome, between)) :
    between.wire.script.closingFault? = none := by
  have same := sameConnection_connectedWork settings clock task accepted
  have started : ClosesWith none (Session.start script files).wire := fun _ => closes
  have kept := (agrees_connectedWork settings clock task).keeps closesWith_call started
  rw [worked] at same kept
  obtain ⟨calls, history, used⟩ := same.calls
  apply kept
  intro event member closed
  change event ∈ between.contact.history at member
  rw [history] at member
  rcases List.mem_append.mp member with later | first
  · have stays := used event later
    rw [closed] at stays
    cases stays
  · rw [List.mem_singleton.mp first] at closed
    cases closed

/-- Where the connection is closed, a task ends as its work does. -/
theorem blockingTask_run_of_disconnect
    (worked : connectedWork settings clock task (Session.start script files) =
      (outcome, between))
    (closing : disconnect between = (.ok (), after)) :
    blockingTask settings clock task (Session.start script files) = (outcome, after) := by
  have attempted : (connectedWork settings clock task).attempt (Session.start script files) =
      (.ok outcome, between) := by
    rw [attempt, worked]
  change ((connectedWork settings clock task).attempt >>= _) _ = _
  rw [bind_run_of_eq_ok attempted, bind_run_of_eq_ok closing]
  cases outcome with
  | ok value => rfl
  | error failure => rfl

/-- A task ends as its work does. It has connected once, and its connection is closed. -/
theorem blockingTask_run (closes : script.closingFault? = none)
    (worked : connectedWork settings clock task (Session.start script files) =
      (outcome, between)) :
    ∃ after,
      blockingTask settings clock task (Session.start script files) = (outcome, after) ∧
        OneConnection settings.connectionArguments after.wire.events ∧
        after.wire.handed = between.wire.handed ∧
        after.context.files = between.context.files := by
  cases refusal : (Session.start script files).refusal? with
  | some fault =>
      have refused := connectedWork_run_of_refused settings clock task refusal
      cases worked.symm.trans refused
      refine ⟨_, blockingTask_run_of_disconnect worked (disconnect_run_of_detached rfl), ?_,
        rfl, rfl⟩
      rw [Session.events_eq, Session.contact_behind_of_refused refusal]
      exact .refused
  | none =>
      have same := sameConnection_connectedWork settings clock task refusal
      have stillCloses := closingFault?_of_accepted closes refusal worked
      rw [worked] at same
      obtain ⟨calls, history, used⟩ := same.calls
      have closing := disconnect_run_of_attached same.attached_eq stillCloses
      refine ⟨between.parted, blockingTask_run_of_disconnect worked closing, ?_, ?_, rfl⟩
      · rw [Session.events_eq, Session.contact_parted stillCloses, Contact.parted, history,
          List.reverse_cons, List.reverse_append]
        exact .closed fun event member => used event (List.mem_reverse.mp member)
      · exact (Wire.handed_call between.wire .disconnect).trans (List.append_nil _)

end Connection

/-! ## Tasks that are done -/

/-- Whether a run has done its task. Behind the statement for the time zone an import has
handed over the choice of its database and the statements of its file, in order, once each: all
of them can be sent, and their cursors have passed. An export has made the sections of all
tables, and its file holds them between the header and the footer. -/
inductive Accomplished (settings : Settings) (clock : Clock) (script : Script) (files : Files)
    (ended : Session) : Task → Prop
  | imported {path content : Text} {database : Option Text}
      (read : readScript files path = .ok content)
      (handed : ended.wire.handed =
        (.text (Query.timezone settings), []) ::
          (Statement.choice database ++ Script.statements content).filterMap bare?)
      (sendable : ∀ statement ∈ Statement.choice database ++ Script.statements content,
        statement.hasLone = false)
      (passes : ∀ place < (Statement.choice database ++ Script.statements content).length,
        (script.cursorAt (1 + place)).Passes) :
      Accomplished settings clock script files ended (.importScript path database)
  | exported {database path : Text} {withData withDrop : Bool} {mode : InsertMode}
      {sections : List Text} {connected after : Session} {octets : Octets}
      (connects : Blocking.connect settings (Session.start script files) = (.ok (), connected))
      (made : Export.Made settings (dumpOptions withData withDrop mode)
        { options := dumpOptions withData withDrop mode, clock } database
        (connected.noted .dump .info (Notice.exporting database path)) sections after)
      (encoded : Encoding.utf8.encode
        (Formatter.header { options := dumpOptions withData withDrop mode, clock } database ++
          sections.flatten ++ Formatter.footer) = .ok octets)
      (written : ended.context.files.read path = .ok octets) :
      Accomplished settings clock script files ended
        (.exportDump database (some path) withData withDrop mode)

/-- Whether a session is what the beginning of a run becomes when a connection is made. -/
structure Connected (settings : Settings) (script : Script) (files : Files)
    (connected : Session) : Prop where
  attached : connected.context.attached = true
  files : connected.context.files = files
  handed : connected.wire.handed = [(.text (Query.timezone settings), [])]
  cursors : ∀ place, connected.wire.script.cursorAt place = script.cursorAt (1 + place)

section Work

variable {settings : Settings} {clock : Clock} {script : Script} {files : Files}
  {connected ended : Session}

open Blocking

theorem connected_of_connect (set : settings.timezone.isTruthy = true)
    (ran : connect settings (Session.start script files) = (.ok (), connected)) :
    Connected settings script files connected := by
  have standing := settle_run_eq_ok set (connect_run_eq_ok ran).2
  refine ⟨congrArg Standing.attached standing, ?_, congrArg Standing.handed standing, ?_⟩
  · have kept := (onServer_connect settings).files_eq (Session.start script files)
    rw [ran] at kept
    exact kept
  · intro place
    have cursors : connected.wire.script.cursors = script.cursors.tail :=
      congrArg (·.script.cursors) standing
    rw [Script.cursorAt, cursors, List.getElem?_tail, Nat.add_comm place, Script.cursorAt]

/-- Work that returns has done the task. -/
theorem accomplished_of_connectedWork {task : Task} (needs : task.needsServer = true)
    (set : settings.timezone.isTruthy = true)
    (ran : connectedWork settings clock task (Session.start script files) = (.ok (), ended)) :
    Accomplished settings clock script files ended task := by
  obtain ⟨_, connected, connects, worked⟩ := bind_run_eq_ok ran
  have connection := connected_of_connect set connects
  cases task with
  | splitScript path => cases needs
  | importScript path database =>
      obtain ⟨count, between, restored, logged⟩ := bind_run_eq_ok worked
      obtain ⟨content, read, executes⟩ := executes_of_restoreFile restored connection.attached
      cases logged
      refine .imported (connection.files ▸ read) ?_ executes.sendable ?_
      · exact executes.hands.handed.trans (by rw [connection.handed]; rfl)
      · intro place below
        rw [← connection.cursors]
        exact executes.passes place below
  | exportDump database path withData withDrop mode =>
      cases path with
      | some path =>
          obtain ⟨sections, after, octets, made, encoded, written⟩ :=
            Export.writeDump_run_eq_ok worked
          exact .exported connects made encoded written
      | none =>
          obtain ⟨_, between, -, rest⟩ := bind_run_eq_ok worked
          obtain ⟨_, made, -, failed⟩ := bind_run_eq_ok rest
          cases failed

end Work

theorem Accomplished.of_eq {settings : Settings} {clock : Clock} {script : Script}
    {files : Files} {ended after : Session} {task : Task}
    (done : Accomplished settings clock script files ended task)
    (sameHanded : after.wire.handed = ended.wire.handed)
    (sameFiles : after.context.files = ended.context.files) :
    Accomplished settings clock script files after task := by
  cases done with
  | imported read handed sendable passes =>
      exact .imported read (sameHanded.trans handed) sendable passes
  | exported connects made encoded written =>
      exact .exported connects made encoded (sameFiles ▸ written)

/-! ## Endings -/

/-- The end of a run writes into the log and does nothing else. -/
theorem finish_session (level : Int) (output : Text) (outcome : Except Failure Unit)
    (session : Session) :
    (finish level output outcome session).session.wire = session.wire ∧
      (finish level output outcome session).session.context.files = session.context.files := by
  cases outcome with
  | ok value => exact ⟨rfl, rfl⟩
  | error failure =>
      rw [finish]
      cases failureMessage? failure with
      | none => exact ⟨rfl, rfl⟩
      | some message => exact ⟨rfl, rfl⟩

/-- A run that exports or imports connects at most once, and a connection that it makes is
closed behind all other calls, whatever the run ends with. It ends with status zero only
where its task is done, with status one for a failure of the library or of the operating
system, and with every other failure as it is. -/
theorem run_accounted {environment : Environment} {arguments : List Text}
    {invocation : Invocation} {level : Int}
    (asked : Asks environment arguments invocation level)
    (needs : invocation.task.needsServer = true) {script : Script}
    (closes : script.closingFault? = none) (files : Files) (clock : Clock) :
    let settings := invocation.settings level
    let begun := Session.start script files
    let work := connectedWork settings clock invocation.task begun
    let ran := run environment clock arguments begun
    OneConnection settings.connectionArguments ran.session.wire.events ∧
      (ran.ending = .status 0 →
        Accomplished settings clock script files ran.session invocation.task) ∧
      (work.1 = .ok () → ran.ending = .status 0) ∧
      ∀ failure, work.1 = .error failure →
        ran.ending =
          if failure.isOwn || failure.isSystem then .status 1 else .escape (.failed failure) := by
  intro settings begun work ran
  have worked : connectedWork settings clock invocation.task begun = (work.1, work.2) := rfl
  obtain ⟨after, taskRun, oneConnection, sameHanded, sameFiles⟩ := blockingTask_run closes worked
  have ranEq : ran = finish level [] work.1 after := by
    change run environment clock arguments begun = _
    rw [run_of_asks asked, runTask_eq needs, taskRun]
  have fails (failure : Failure) (failed : work.1 = .error failure) :
      ran.ending =
        if failure.isOwn || failure.isSystem then .status 1 else .escape (.failed failure) := by
    rw [ranEq, failed, ending_finish_of_error]
  obtain ⟨sameWire, keptFiles⟩ := finish_session level [] work.1 after
  rw [← ranEq] at sameWire keptFiles
  refine ⟨sameWire ▸ oneConnection, fun zero => ?_, fun succeeded => ?_, fails⟩
  · cases outcome : work.1 with
    | ok value =>
        have set : settings.timezone.isTruthy = true := rfl
        have ended : work = (.ok (), work.2) := Prod.ext outcome rfl
        exact (accomplished_of_connectedWork needs set ended).of_eq
          ((congrArg Wire.handed sameWire).trans sameHanded) (keptFiles.trans sameFiles)
    | error failure =>
        have ended := (fails failure outcome).symm.trans zero
        split at ended
        · cases ended
        · cases ended
  · rw [ranEq, succeeded]
    rfl

/-- The words of an import that is suspended at each call. -/
def importWords : List Text :=
  [text "--use-async", text "import", text "shop.sql", text "--database", text "shop"]

/-- What these words ask for. -/
def importInvocation : Invocation where
  host := text "localhost"
  port := 3306
  user := text "root"
  password := []
  charset := text "utf8mb4"
  suspended := true
  logLevel := text "INFO"
  task := .importScript (text "shop.sql") (some (text "shop"))

/-- A file with two statements. -/
def shopFiles : Files :=
  [([text "shop.sql"], Utf8.encode (text "CREATE TABLE t (n INT);\nINSERT INTO t VALUES (1);\n"))]

/-- A server on which the second statement of a file is the victim of a deadlock. -/
def deadlocked : Script where
  cursors :=
    [{}, {}, {}, { executeFault := some (.client .operational (some 1213) none (text "Deadlock")) }]

theorem asks_importWords : Asks [] importWords importInvocation 20 :=
  ⟨⟨3306, rfl, rfl⟩, by decide⟩

/-- The day on which the commands are run. -/
def leapDay : Clock where
  moment := { year := 2024, month := 2, day := 29 }
  offset := none

/-- Both statements of the file are executed, or the second one stops the import. -/
theorem run_accounted_import :
    (run [] leapDay importWords (.start {} shopFiles)).ending = .status 0 ∧
      Accomplished (importInvocation.settings 20) leapDay {} shopFiles
        (run [] leapDay importWords (.start {} shopFiles)).session importInvocation.task ∧
      (run [] leapDay importWords (.start deadlocked shopFiles)).ending = .status 1 ∧
      OneConnection (importInvocation.settings 20).connectionArguments
        (run [] leapDay importWords (.start deadlocked shopFiles)).session.wire.events := by
  have passes : (connectedWork (importInvocation.settings 20) leapDay importInvocation.task
      (.start {} shopFiles)).1.mapError Failure.isOwn = .ok () := by
    decide +kernel
  have breaks : (connectedWork (importInvocation.settings 20) leapDay importInvocation.task
      (.start deadlocked shopFiles)).1.mapError Failure.isOwn = .error true := by
    decide +kernel
  obtain ⟨-, accomplished, succeeds, -⟩ :=
    @run_accounted _ _ _ _ asks_importWords rfl {} rfl shopFiles leapDay
  obtain ⟨oneConnection, -, -, fails⟩ :=
    @run_accounted _ _ _ _ asks_importWords rfl deadlocked rfl shopFiles leapDay
  have zero := succeeds (mapError_eq_ok_iff.mp passes)
  obtain ⟨failure, failed, own⟩ := mapError_eq_error_iff.mp breaks
  refine ⟨zero, accomplished zero, (fails failure failed).trans ?_, oneConnection⟩
  rw [own]
  rfl

end SqlDump.Command
