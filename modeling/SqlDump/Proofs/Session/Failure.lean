import SqlDump.Command.Run
import SqlDump.Proofs.Restore.Progress

/-!
# Where failures come from

The library turns a fault of the client library into a failure of its own when it makes
a connection, when it executes a statement and when it fetches rows. Where it opens or
closes the cursor of a statement it lets the fault pass. A statement that cannot be sent
fails without a fault.

Main statements: `failsAccounted_execute` and `failsAccounted_restore` for statements and
scripts, and `failure_accounted` for sessions in both ways of waiting.
-/

namespace SqlDump

open Server

/-- Whether the last call of a session failed to open or to close a cursor. -/
def Session.EndsAtCursor (session : Session) : Prop :=
  ∃ event, session.wire.history.head? = some event ∧ event.succeeded = false ∧
    (event.request = .openCursor ∨ event.request = .closeCursor)

/-- Whether a failure is one of the library's own, or that of a statement that cannot be
sent, or passes a fault on: one from outside the client library, or one with which a cursor
was opened or closed. -/
def Server.Failure.Accounted (failure : Failure) (after : Session) : Prop :=
  failure.isOwn = true ∨
    (∃ statement unwritable, Prepared.ofText statement = .error unwritable ∧
      failure = .statement unwritable) ∨
    ∃ fault, failure = .raised fault ∧ (fault.isClient = true → after.EndsAtCursor)

namespace Blocking

variable {α β : Type}

/-- Whether all failures of an operation are accounted for. -/
structure FailsAccounted (operation : Blocking α) : Prop where
  accounted : ∀ (session after : Session) (failure : Failure),
    operation session = (.error failure, after) → failure.Accounted after

theorem failsAccounted_pure (value : α) : FailsAccounted (pure value) :=
  ⟨fun _ _ _ ran => by cases ran⟩

theorem failsAccounted_log (source : LogSource) (level : LogLevel) (message : Text) :
    FailsAccounted (log source level message) :=
  ⟨fun _ _ _ ran => by cases ran⟩

theorem failsAccounted_modify (change : Context → Context) : FailsAccounted (modify change) :=
  ⟨fun _ _ _ ran => by cases ran⟩

theorem failsAccounted_call (request : Request) : FailsAccounted (call request) :=
  ⟨fun _ _ _ ran => by cases ran⟩

theorem FailsAccounted.andThen {first : Blocking α} {second : α → Blocking β}
    (firstAccounted : FailsAccounted first)
    (secondAccounted : ∀ value, FailsAccounted (second value)) :
    FailsAccounted (first >>= second) := by
  constructor
  intro session after failure ran
  rw [bind_apply] at ran
  cases firstRan : first session with
  | mk result between =>
      rw [firstRan] at ran
      cases result with
      | ok value => exact (secondAccounted value).accounted between after failure ran
      | error stopped =>
          cases ran
          exact firstAccounted.accounted session after failure firstRan

theorem failsAccounted_ite {condition : Prop} [Decidable condition] {yes no : Blocking α}
    (yesAccounted : FailsAccounted yes) (noAccounted : FailsAccounted no) :
    FailsAccounted (if condition then yes else no) := by
  split
  · exact yesAccounted
  · exact noAccounted

/-- A failure that does not pass on a fault of the client library can stand anywhere. -/
theorem failsAccounted_fail {failure : Failure}
    (harmless : failure.isOwn = true ∨ ∃ fault, failure = .raised fault ∧ fault.isClient = false) :
    FailsAccounted (fail failure : Blocking α) := by
  constructor
  intro session after stopped ran
  cases ran
  rcases harmless with own | ⟨fault, rfl, outside⟩
  · exact .inl own
  · refine .inr (.inr ⟨fault, rfl, fun client => ?_⟩)
    rw [outside] at client
    cases client

theorem failsAccounted_orFail {failure : Fault → Failure}
    (translates : ∀ fault, fault.isClient = true → (failure fault).isOwn = true)
    (passes : ∀ fault, fault.isClient = false → failure fault = .raised fault)
    (answer : Except Fault α) : FailsAccounted (orFail failure answer) := by
  cases answer with
  | ok value => exact failsAccounted_pure value
  | error fault =>
      cases client : fault.isClient with
      | true => exact failsAccounted_fail (.inl (translates fault client))
      | false => exact failsAccounted_fail (.inr ⟨fault, passes fault client, client⟩)

theorem failsAccounted_ofConnect (answer : Except Fault α) :
    FailsAccounted (orFail .ofConnect answer) := by
  refine failsAccounted_orFail (fun fault client => ?_) (fun fault outside => ?_) answer
  · simp [Failure.ofConnect, client, Failure.isOwn]
  · simp [Failure.ofConnect, outside]

theorem failsAccounted_ofStatement (answer : Except Fault α) :
    FailsAccounted (orFail .ofStatement answer) := by
  refine failsAccounted_orFail (fun fault client => ?_) (fun fault outside => ?_) answer
  · rw [Failure.ofStatement, if_pos client]
    exact Failure.isOwn_ofFault client
  · simp [Failure.ofStatement, outside]

/-- A cursor that cannot be opened or closed is the last call of the session. -/
theorem failsAccounted_cursor {request : Request}
    (cursor : request = .openCursor ∨ request = .closeCursor)
    (read : request.Answer → Except Fault Unit)
    (faulty : ∀ answer fault, read answer = .error fault → request.succeeded answer = false)
    {rest : Unit → Blocking β} (restAccounted : ∀ value, FailsAccounted (rest value)) :
    FailsAccounted (call request >>= fun answer => orFail .raised (read answer) >>= rest) := by
  constructor
  intro session after failure ran
  rw [bind_run_of_eq_ok (call_run request session)] at ran
  cases answered : read (session.wire.script.answer request).1 with
  | ok value =>
      rw [answered] at ran
      exact (restAccounted value).accounted _ _ _ ran
  | error fault =>
      rw [answered] at ran
      cases ran
      refine .inr (.inr ⟨fault, rfl, fun _ => ⟨_, rfl, ?_, cursor⟩⟩)
      exact faulty _ fault answered

/-! ## Operations on the server -/

theorem failsAccounted_prepare (statement : Text) :
    FailsAccounted (ofExcept ((Prepared.ofText statement).mapError .statement)) := by
  constructor
  intro session after failure ran
  cases made : Prepared.ofText statement with
  | ok prepared =>
      rw [made] at ran
      cases ran
  | error unwritable =>
      rw [made] at ran
      cases ran
      exact .inr (.inl ⟨statement, unwritable, made, rfl⟩)

theorem failsAccounted_setTimezone (settings : Settings) :
    FailsAccounted (setTimezone settings) := by
  apply (failsAccounted_call _).andThen
  intro opened
  apply (failsAccounted_ofConnect opened).andThen
  intro _
  apply (failsAccounted_call _).andThen
  intro answer
  cases answer with
  | ok reply =>
      apply (failsAccounted_call _).andThen
      intro closed
      exact (failsAccounted_ofConnect closed).andThen fun _ => failsAccounted_pure ()
  | error fault =>
      have closing : FailsAccounted (do
          orFail .ofConnect (← call .closeCursor)
          if !fault.isClient then fail (.raised fault)) := by
        apply (failsAccounted_call _).andThen
        intro closed
        apply (failsAccounted_ofConnect closed).andThen
        intro _
        cases client : fault.isClient with
        | true => exact failsAccounted_pure ()
        | false => exact failsAccounted_fail (.inr ⟨fault, rfl, client⟩)
      exact failsAccounted_ite ((failsAccounted_log ..).andThen fun _ => closing) closing

theorem failsAccounted_connect (settings : Settings) : FailsAccounted (connect settings) := by
  apply (failsAccounted_call _).andThen
  intro answer
  apply (failsAccounted_ofConnect answer).andThen
  intro _
  apply (failsAccounted_modify _).andThen
  intro _
  have ending := failsAccounted_log .backend .info (Notice.connected settings)
  exact failsAccounted_ite ((failsAccounted_setTimezone settings).andThen fun _ => ending) ending

theorem failsAccounted_ensureConnection (settings : Settings) :
    FailsAccounted (ensureConnection settings) := by
  have asked : FailsAccounted context := ⟨fun _ _ _ ran => by cases ran⟩
  apply asked.andThen
  intro current
  exact failsAccounted_ite
    ((failsAccounted_log ..).andThen fun _ => failsAccounted_connect settings)
    (failsAccounted_pure ())

theorem failsAccounted_fetch (statement : Prepared) (parameters : List Client.Raw) :
    FailsAccounted (fetch statement parameters) := by
  constructor
  intro session after failure ran
  obtain ⟨fetched, fetchRun, -⟩ := fetch_run statement parameters session
  rw [fetchRun] at ran
  cases ran

theorem failsAccounted_execute (settings : Settings) (statement : Text)
    (parameters : List Client.Raw) : FailsAccounted (execute settings statement parameters) := by
  apply (failsAccounted_ensureConnection settings).andThen
  intro _
  apply (failsAccounted_log ..).andThen
  intro _
  apply (failsAccounted_prepare statement).andThen
  intro prepared
  apply failsAccounted_cursor (.inl rfl) id
  · rintro answer fault rfl
    rfl
  intro _
  apply (failsAccounted_fetch _ _).andThen
  intro fetched
  have closing : FailsAccounted (conclude fetched) := by
    apply failsAccounted_cursor (.inr rfl) id
    · rintro answer fault rfl
      rfl
    intro _
    apply (failsAccounted_ofStatement fetched).andThen
    intro result
    exact (failsAccounted_log ..).andThen fun _ => failsAccounted_pure result
  cases fetched with
  | ok result => exact closing
  | error fault =>
      exact failsAccounted_ite ((failsAccounted_log ..).andThen fun _ => closing) closing

theorem failsAccounted_useDatabase (settings : Settings) (database : Text) :
    FailsAccounted (useDatabase settings database) :=
  (failsAccounted_execute ..).andThen fun _ => failsAccounted_pure ()

/-! ## Scripts -/

/-- A report is the library's own, or the failure as it was where it was. -/
theorem accounted_reportFailure {index total : Nat} {statement : Text}
    {failure stopped : Failure} {session after : Session} (accounted : failure.Accounted session)
    (ran : reportFailure index total statement failure session = (.error stopped, after)) :
    stopped.Accounted after := by
  cases own : failure.isOwn with
  | true =>
      simp only [reportFailure, own, if_true] at ran
      cases ran
      exact .inl rfl
  | false =>
      simp only [reportFailure, own] at ran
      cases ran
      exact accounted

theorem failsAccounted_executeFrom (settings : Settings) (total index : Nat)
    (statements : List Text) : FailsAccounted (executeFrom settings total index statements) := by
  induction statements generalizing index with
  | nil => exact failsAccounted_pure ()
  | cons statement rest hypothesis =>
      constructor
      intro session after failure ran
      rw [executeFrom, bind_apply, attempt] at ran
      cases executed : execute settings statement [] session with
      | mk result between =>
          rw [executed] at ran
          cases result with
          | ok result => exact (hypothesis (index + 1)).accounted between after failure ran
          | error stopped =>
              have accounted := (failsAccounted_execute settings statement []).accounted
                session between stopped executed
              exact accounted_reportFailure accounted ran

theorem failsAccounted_restore (settings : Settings) (script : Text) (database : Option Text) :
    FailsAccounted (restore settings script database) := by
  have execution : FailsAccounted (executeAll settings (Script.statements script)) := by
    apply (failsAccounted_log ..).andThen
    intro _
    apply (failsAccounted_executeFrom ..).andThen
    intro _
    exact (failsAccounted_log ..).andThen fun _ => failsAccounted_pure _
  unfold restore
  cases database.filter (!·.isEmpty) with
  | none => exact execution
  | some name => exact (failsAccounted_useDatabase settings name).andThen fun _ => execution

/-- What accounts for the failures of a program accounts for those of its operation. -/
theorem FailsAccounted.perform {blocking : Blocking α} (accounted : FailsAccounted blocking)
    {outcome : α → Outcome} {session after : Session} {waiting : Waiting} {settings : Settings}
    {operation : Operation} {failure : Failure}
    (performed : session.perform waiting settings operation =
      ((blocking session).1.map outcome, (blocking session).2))
    (failed : session.perform waiting settings operation = (.error failure, after)) :
    failure.Accounted after := by
  rw [performed] at failed
  cases ran : blocking session with
  | mk result behind =>
      rw [ran] at failed
      cases result with
      | ok value => cases failed
      | error stopped =>
          cases failed
          exact accounted.accounted session behind failure ran

end Blocking

namespace Command

/-- What the log says about a failure is there exactly where it gives status one. -/
theorem failureMessage?_isSome (failure : Failure) :
    (failureMessage? failure).isSome = (failure.isOwn || failure.isSystem) := by
  cases failure with
  | connection fault => rfl
  | restore index total statement cause => rfl
  | database category fault => rfl
  | row error => rfl
  | name invalid => rfl
  | missingColumn => rfl
  | statement unwritable => rfl
  | raised fault =>
      cases system : fault.isSystem with
      | false => simp [failureMessage?, Failure.isOwn, Failure.isSystem, system]
      | true => simp [failureMessage?, Failure.isOwn, Failure.isSystem, system]
  | file error =>
      cases system : error.isSystem with
      | false => simp [failureMessage?, Failure.isOwn, Failure.isSystem, system]
      | true => simp [failureMessage?, Failure.isOwn, Failure.isSystem, system]

/-- A failure of the library or of the operating system gives status one, and every other one
ends the program as it is. -/
theorem ending_finish_of_error (level : Int) (output : Text) (failure : Failure)
    (session : Session) :
    (finish level output (.error failure) session).ending =
      if failure.isOwn || failure.isSystem then .status 1 else .escape (.failed failure) := by
  rw [← failureMessage?_isSome, finish]
  cases failureMessage? failure with
  | none => rfl
  | some message => rfl

/-- The program reports a failure of the library's own and ends with status one. -/
theorem ending_finish_of_isOwn {failure : Failure} (own : failure.isOwn = true) (level : Int)
    (output : Text) (session : Session) :
    (finish level output (.error failure) session).ending = .status 1 := by
  rw [ending_finish_of_error, own]
  rfl

end Command

namespace Session

/-- A session whose next cursor cannot be opened. -/
def withoutCursor : Session :=
  { context := { attached := true }
    wire := { script := { cursors := [{ openFault := some lostConnection }] } } }

/-- A statement or a script fails with a failure of the library's own, with a fault from
outside the client library, because a cursor could not be opened or closed, or without a
fault because a statement cannot be sent. The program ends with status one where the failure
is the library's own. -/
theorem failure_accounted (session : Session) (waiting : Waiting) (settings : Settings) :
    (∀ (statement : Text) (parameters : List Client.Raw) (failure : Failure) (after : Session),
      session.perform waiting settings (.execute statement parameters) = (.error failure, after) →
      failure.Accounted after) ∧
    (∀ (script : Text) (database : Option Text) (failure : Failure) (after : Session),
      session.perform waiting settings (.restore script database) = (.error failure, after) →
      failure.Accounted after) ∧
    ∀ (level : Int) (output : Text) (failure : Failure), failure.isOwn = true →
      (Command.finish level output (.error failure) session).ending = .status 1 := by
  refine ⟨?_, ?_, fun level output failure own => Command.ending_finish_of_isOwn own ..⟩
  · intro statement parameters failure after failed
    have performed := perform_execute session waiting settings statement parameters
    exact (Blocking.failsAccounted_execute ..).perform performed failed
  · intro script database failure after failed
    have performed := perform_restore session waiting settings script database
    exact (Blocking.failsAccounted_restore ..).perform performed failed

/-- A statement whose cursor cannot be opened. -/
theorem failure_accounted_withoutCursor :
    ∃ after, withoutCursor.perform .blocking {} (.execute (text "SELECT 1") []) =
        (.error (.raised lostConnection), after) ∧
      (Failure.raised lostConnection).Accounted after := by
  have failed : (withoutCursor.perform .blocking {} (.execute (text "SELECT 1") [])).1 =
      .error (.raised lostConnection) := by
    rw [perform_execute, Blocking.execute_run_of_openFault rfl rfl rfl]
    rfl
  have run := Prod.ext failed rfl
  exact ⟨_, run, (failure_accounted withoutCursor .blocking {}).1 _ _ _ _ run⟩

/-- A fault of the client library can leave a statement as it is. -/
theorem client_fault_passes :
    ¬ ∀ (session : Session) (waiting : Waiting) (settings : Settings) (statement : Text)
        (parameters : List Client.Raw) (fault : Fault), fault.isClient = true →
      (session.perform waiting settings (.execute statement parameters)).1 ≠
        .error (.raised fault) := by
  intro translated
  apply translated withoutCursor .blocking {} (text "SELECT 1") [] lostConnection rfl
  rw [perform_execute, Blocking.execute_run_of_openFault rfl rfl rfl]
  rfl

end Session

end SqlDump
