import SqlDump.Session.Operation

/-!
# Two ways of waiting

An event loop answers each call of a suspended operation from the wire that the
blocking operation would ask. The two therefore end with the same result, and leave
the same session behind.

Main statements: `Agrees.andThen` for one operation after another, `Agrees.keeps` for what
they leave alone, and `Session.perform_execute` and `Session.perform_restore` for what a
session performs.
-/

namespace SqlDump

open Server

variable {α β : Type}

/-- Whether a suspended operation and a blocking one run alike on every session. -/
structure Agrees (suspended : Suspended α) (blocking : Blocking α) : Prop where
  run_eq : ∀ session, suspended.run session = blocking session

/-- One suspended operation after another runs as the first one and then the second one. -/
theorem Suspended.run_bind (first : Suspended α) (second : α → Suspended β) (session : Session) :
    (first >>= second).run session =
      Blocking.andThen first.run (fun value => (second value).run) session := by
  change Suspended.run (Suspended.andThen first second) session = _
  simp only [Suspended.run, Suspended.andThen, Suspension.run_andThen, Blocking.andThen]
  cases ended : (first session.context).run session.wire with
  | mk outcome wire =>
      obtain ⟨result, context⟩ := outcome
      cases result with
      | error failure => rfl
      | ok value => rfl

theorem Agrees.andThen {first : Suspended α} {firstBlocking : Blocking α}
    {second : α → Suspended β} {secondBlocking : α → Blocking β}
    (firstAgrees : Agrees first firstBlocking)
    (secondAgrees : ∀ value, Agrees (second value) (secondBlocking value)) :
    Agrees (first >>= second) (firstBlocking >>= secondBlocking) := by
  constructor
  intro session
  have firstRun : first.run = firstBlocking := funext firstAgrees.run_eq
  have secondRun : (fun value => (second value).run) = secondBlocking :=
    funext fun value => funext (secondAgrees value).run_eq
  rw [Suspended.run_bind, firstRun, secondRun]
  rfl

theorem agrees_pure (value : α) : Agrees (pure value) (pure value) :=
  ⟨fun _ => rfl⟩

theorem agrees_fail (failure : Failure) :
    Agrees (Suspended.fail failure : Suspended α) (Blocking.fail failure) :=
  ⟨fun _ => rfl⟩

theorem agrees_context : Agrees Suspended.context Blocking.context :=
  ⟨fun _ => rfl⟩

theorem agrees_modify (change : Context → Context) :
    Agrees (Suspended.modify change) (Blocking.modify change) :=
  ⟨fun _ => rfl⟩

theorem agrees_log (source : LogSource) (level : LogLevel) (message : Text) :
    Agrees (Suspended.log source level message) (Blocking.log source level message) :=
  ⟨fun _ => rfl⟩

/-- The answer to a call is the same whether an operation waits for it or is resumed
with it. -/
theorem agrees_call (request : Request) :
    Agrees (Suspended.await request) (Blocking.call request) :=
  ⟨fun _ => rfl⟩

theorem agrees_ofExcept (outcome : Except Failure α) :
    Agrees (Suspended.ofExcept outcome) (Blocking.ofExcept outcome) := by
  cases outcome with
  | ok value => exact agrees_pure value
  | error failure => exact agrees_fail failure

theorem agrees_orFail (failure : Fault → Failure) (answer : Except Fault α) :
    Agrees (Suspended.orFail failure answer) (Blocking.orFail failure answer) := by
  cases answer with
  | ok value => exact agrees_pure value
  | error fault => exact agrees_fail _

theorem agrees_ite {condition : Prop} [Decidable condition] {yes no : Suspended α}
    {yesBlocking noBlocking : Blocking α} (yesAgrees : Agrees yes yesBlocking)
    (noAgrees : Agrees no noBlocking) :
    Agrees (if condition then yes else no) (if condition then yesBlocking else noBlocking) := by
  split
  · exact yesAgrees
  · exact noAgrees

theorem Agrees.attempt {suspended : Suspended α} {blocking : Blocking α}
    (agrees : Agrees suspended blocking) :
    Agrees suspended.attempt blocking.attempt := by
  constructor
  intro session
  have run := agrees.run_eq session
  simp only [Suspended.run, Blocking.attempt, Suspended.attempt, Suspension.run_andThen] at run ⊢
  rw [← run]
  rfl

section Invariants

variable {invariant : Wire → Prop}

/-- Only calls touch the wire, so that a suspension keeps what calls keep. -/
theorem Suspension.run_keeps
    (keeps : ∀ wire request, invariant wire → invariant (wire.call request).2)
    (suspension : Suspension α) {wire : Wire} (holds : invariant wire) :
    invariant (suspension.run wire).2 := by
  induction suspension generalizing wire with
  | finished outcome => exact holds
  | waiting request resume hypothesis => exact hypothesis _ (keeps wire request holds)

theorem Agrees.keeps {suspended : Suspended α} {blocking : Blocking α}
    (agrees : Agrees suspended blocking)
    (keeps : ∀ wire request, invariant wire → invariant (wire.call request).2) {session : Session}
    (holds : invariant session.wire) : invariant (blocking session).2.wire := by
  rw [← agrees.run_eq session]
  exact (suspended session.context).run_keeps keeps holds

end Invariants

/-- An operation made of a suspended program and a blocking one that agree ends alike in
both ways of waiting. -/
theorem Agrees.perform_eq {suspended : Suspended α} {blocking : Blocking α}
    (agrees : Agrees suspended blocking) {settings : Settings} {operation : Operation}
    {outcome : α → Outcome}
    (whenSuspended : operation.suspended settings = suspended >>= fun value => pure (outcome value))
    (whenBlocking : operation.blocking settings = blocking >>= fun value => pure (outcome value))
    (session : Session) (waiting : Waiting) :
    session.perform waiting settings operation =
      ((blocking session).1.map outcome, (blocking session).2) := by
  have blocked : (blocking >>= fun value => pure (outcome value)) session =
      ((blocking session).1.map outcome, (blocking session).2) := by
    rw [Blocking.bind_apply]
    cases blocking session with
    | mk result after => cases result <;> rfl
  cases waiting with
  | blocking =>
      rw [Session.perform, whenBlocking]
      exact blocked
  | suspended =>
      rw [Session.perform, whenSuspended]
      exact ((agrees.andThen fun value => agrees_pure (outcome value)).run_eq session).trans blocked

/-! ## Operations on the server -/

theorem agrees_setTimezone (settings : Settings) :
    Agrees (Suspended.setTimezone settings) (Blocking.setTimezone settings) := by
  apply (agrees_call _).andThen
  intro opened
  apply (agrees_orFail _ opened).andThen
  intro _
  apply (agrees_call _).andThen
  intro answer
  cases answer with
  | ok reply =>
      apply (agrees_call _).andThen
      intro closed
      exact (agrees_orFail _ closed).andThen fun _ => agrees_pure ()
  | error fault =>
      have closing : Agrees
          (do
            Suspended.orFail .ofConnect (← Suspended.await .closeCursor)
            if !fault.isClient then Suspended.fail (.raised fault))
          (do
            Blocking.orFail .ofConnect (← Blocking.call .closeCursor)
            if !fault.isClient then Blocking.fail (.raised fault)) := by
        apply (agrees_call _).andThen
        intro closed
        apply (agrees_orFail _ closed).andThen
        intro _
        exact agrees_ite (agrees_fail _) (agrees_pure ())
      exact agrees_ite ((agrees_log ..).andThen fun _ => closing) closing

theorem agrees_connect (settings : Settings) :
    Agrees (Suspended.connect settings) (Blocking.connect settings) := by
  apply (agrees_call _).andThen
  intro answer
  apply (agrees_orFail _ answer).andThen
  intro _
  apply (agrees_modify _).andThen
  intro _
  have ending := agrees_log .backend .info (Notice.connected settings)
  exact agrees_ite ((agrees_setTimezone settings).andThen fun _ => ending) ending

theorem agrees_disconnect : Agrees Suspended.disconnect Blocking.disconnect := by
  apply agrees_context.andThen
  intro context
  apply agrees_ite _ (agrees_pure ())
  apply (agrees_call _).andThen
  intro closed
  apply (agrees_orFail _ closed).andThen
  intro _
  exact (agrees_modify _).andThen fun _ => agrees_log ..

theorem agrees_ensureConnection (settings : Settings) :
    Agrees (Suspended.ensureConnection settings) (Blocking.ensureConnection settings) := by
  apply agrees_context.andThen
  intro context
  exact agrees_ite ((agrees_log ..).andThen fun _ => agrees_connect settings) (agrees_pure ())

theorem agrees_fetch (statement : Prepared) (parameters : List Client.Raw) :
    Agrees (Suspended.fetch statement parameters) (Blocking.fetch statement parameters) := by
  apply (agrees_call _).andThen
  intro answer
  cases answer with
  | error fault => exact agrees_pure _
  | ok reply =>
      cases described : reply.description with
      | none =>
          simp only [described]
          exact agrees_pure _
      | some columns =>
          simp only [described]
          apply (agrees_call _).andThen
          intro fetched
          cases fetched with
          | error fault => exact agrees_pure _
          | ok rows => exact agrees_pure _

theorem agrees_execute (settings : Settings) (statement : Text)
    (parameters : List Client.Raw) :
    Agrees (Suspended.execute settings statement parameters)
      (Blocking.execute settings statement parameters) := by
  apply (agrees_ensureConnection settings).andThen
  intro _
  apply (agrees_log ..).andThen
  intro _
  apply (agrees_ofExcept _).andThen
  intro prepared
  apply (agrees_call _).andThen
  intro opened
  apply (agrees_orFail _ opened).andThen
  intro _
  apply (agrees_fetch _ _).andThen
  intro fetched
  have closing : Agrees
      (do
        Suspended.orFail .raised (← Suspended.await .closeCursor)
        let result ← Suspended.orFail .ofStatement fetched
        Suspended.log .backend .debug (Notice.completed result)
        return result)
      (do
        Blocking.orFail .raised (← Blocking.call .closeCursor)
        let result ← Blocking.orFail .ofStatement fetched
        Blocking.log .backend .debug (Notice.completed result)
        return result) := by
    apply (agrees_call _).andThen
    intro closed
    apply (agrees_orFail _ closed).andThen
    intro _
    apply (agrees_orFail _ fetched).andThen
    intro result
    exact (agrees_log ..).andThen fun _ => agrees_pure result
  cases fetched with
  | ok result => exact closing
  | error fault => exact agrees_ite ((agrees_log ..).andThen fun _ => closing) closing

theorem agrees_useDatabase (settings : Settings) (database : Text) :
    Agrees (Suspended.useDatabase settings database) (Blocking.useDatabase settings database) :=
  (agrees_execute ..).andThen fun _ => agrees_pure ()

theorem agrees_listTables (settings : Settings) (database : Text) :
    Agrees (Suspended.listTables settings database) (Blocking.listTables settings database) :=
  (agrees_execute ..).andThen fun _ => agrees_ofExcept _

theorem agrees_showDefinition (settings : Settings) (database table : Text) :
    Agrees (Suspended.showDefinition settings database table)
      (Blocking.showDefinition settings database table) :=
  (agrees_execute ..).andThen fun _ => agrees_ofExcept _

theorem agrees_fetchTable (settings : Settings) (database table : Text) :
    Agrees (Suspended.fetchTable settings database table)
      (Blocking.fetchTable settings database table) :=
  agrees_execute ..

/-! ## Scripts -/

theorem agrees_reportFailure (index total : Nat) (statement : Text) (failure : Failure) :
    Agrees (Suspended.reportFailure index total statement failure)
      (Blocking.reportFailure index total statement failure) :=
  agrees_ite ((agrees_log ..).andThen fun _ => agrees_fail _) (agrees_fail _)

theorem agrees_executeFrom (settings : Settings) (total index : Nat) (statements : List Text) :
    Agrees (Suspended.executeFrom settings total index statements)
      (Blocking.executeFrom settings total index statements) := by
  induction statements generalizing index with
  | nil => exact agrees_pure ()
  | cons statement rest hypothesis =>
      apply (agrees_execute settings statement []).attempt.andThen
      intro outcome
      cases outcome with
      | ok result => exact hypothesis (index + 1)
      | error failure => exact agrees_reportFailure ..

theorem agrees_restore (settings : Settings) (script : Text) (database : Option Text) :
    Agrees (Suspended.restore settings script database)
      (Blocking.restore settings script database) := by
  have execution : Agrees
      (do
        Suspended.log .restore .info (Notice.restoring (Script.statements script).length)
        Suspended.executeFrom settings (Script.statements script).length 0
          (Script.statements script)
        Suspended.log .restore .info (Notice.restored (Script.statements script).length)
        return (Script.statements script).length)
      (do
        Blocking.log .restore .info (Notice.restoring (Script.statements script).length)
        Blocking.executeFrom settings (Script.statements script).length 0
          (Script.statements script)
        Blocking.log .restore .info (Notice.restored (Script.statements script).length)
        return (Script.statements script).length) := by
    apply (agrees_log ..).andThen
    intro _
    apply (agrees_executeFrom ..).andThen
    intro _
    apply (agrees_log ..).andThen
    intro _
    exact agrees_pure _
  unfold Suspended.restore Blocking.restore
  cases database.filter (!·.isEmpty) with
  | none => exact execution
  | some name => exact (agrees_useDatabase settings name).andThen fun _ => execution

theorem agrees_restoreFile (settings : Settings) (path : Text) (database : Option Text) :
    Agrees (Suspended.restoreFile settings path database)
      (Blocking.restoreFile settings path database) := by
  apply (agrees_log ..).andThen
  intro _
  apply agrees_context.andThen
  intro current
  exact (agrees_ofExcept _).andThen fun script => agrees_restore settings script database

/-! ## Operations of a session -/

namespace Session

variable (session : Session) (waiting : Waiting) (settings : Settings)

theorem perform_execute (statement : Text) (parameters : List Client.Raw) :
    session.perform waiting settings (.execute statement parameters) =
      ((Blocking.execute settings statement parameters session).1.map .result,
        (Blocking.execute settings statement parameters session).2) :=
  (agrees_execute settings statement parameters).perform_eq rfl rfl session waiting

theorem perform_restore (script : Text) (database : Option Text) :
    session.perform waiting settings (.restore script database) =
      ((Blocking.restore settings script database session).1.map .count,
        (Blocking.restore settings script database session).2) :=
  (agrees_restore settings script database).perform_eq rfl rfl session waiting

theorem perform_restoreFile (path : Text) (database : Option Text) :
    session.perform waiting settings (.restoreFile path database) =
      ((Blocking.restoreFile settings path database session).1.map .count,
        (Blocking.restoreFile settings path database session).2) :=
  (agrees_restoreFile settings path database).perform_eq rfl rfl session waiting

end Session

end SqlDump
