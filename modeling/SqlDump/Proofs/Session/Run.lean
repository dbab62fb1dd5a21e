import SqlDump.Session.Blocking

/-!
# Runs of blocking operations

A run is followed call by call. Of a session it matters whether a connection is
attached, what the server will do, and which statements it has been given; what is
written into the log does not.

Main statements: `fetch_run` for a statement on the open cursor, `execute_run_eq` for what
happens in front of the cursor, `execute_run` for a statement on a cursor of its own,
`execute_run_of_unwritable` for one that cannot be sent, and `execute_run_eq_ok` for one that
succeeds.
-/

namespace SqlDump

open Server

/-! ## Statements handed over -/

namespace Server

/-- The statement that a call hands over, with its parameters. -/
def Request.handed? : Request → Option (Prepared × List Client.Raw)
  | .execute statement parameters => some (statement, parameters)
  | _ => none

/-- The statements handed to the client library, in order. -/
def Wire.handed (wire : Wire) : List (Prepared × List Client.Raw) :=
  wire.events.filterMap (·.request.handed?)

theorem Wire.handed_call (wire : Wire) (request : Request) :
    (wire.call request).2.handed = wire.handed ++ request.handed?.toList := by
  simp only [handed, events, call, List.reverse_cons, List.filterMap_append]
  cases shown : request.handed? <;> simp [shown]

namespace CursorScript

/-- The fault that a statement on a cursor ends with: its own, that of fetching its rows
where it has some, or that of making a result of them. -/
def statementFault? (cursor : CursorScript) : Option Fault :=
  match cursor.executeFault, cursor.reply.description with
  | some fault, _ => some fault
  | none, some _ => cursor.fetchFault.or cursor.reply.resultFault
  | none, none => cursor.reply.resultFault

/-- The result of a statement on a cursor that has no fault for it. -/
def result (cursor : CursorScript) : Result :=
  match cursor.reply.description with
  | none => .ofReply [] [] cursor.reply.affectedRows
  | some columns => .ofReply columns cursor.rows cursor.reply.affectedRows

/-- What a statement on a cursor ends with. -/
def outcome (cursor : CursorScript) : Except Fault Result :=
  orFault cursor.statementFault? cursor.result

theorem statementFault?_of_outcome_eq_ok {cursor : CursorScript} {result : Result}
    (succeeded : cursor.outcome = .ok result) : cursor.statementFault? = none := by
  rw [outcome] at succeeded
  cases faulty : cursor.statementFault? with
  | none => rfl
  | some fault =>
      rw [faulty] at succeeded
      cases succeeded

/-- Whether nothing fails on a cursor: it is opened, its statement has a result, and it is
closed. -/
structure Passes (cursor : CursorScript) : Prop where
  opens : cursor.openFault = none
  statement : cursor.statementFault? = none
  closes : cursor.closeFault = none

end CursorScript

/-- What a script does with the cursor that is opened after `place` others. -/
def Script.cursorAt (script : Script) (place : Nat) : CursorScript :=
  script.cursors[place]?.getD {}

theorem Script.answer_openCursor (script : Script) :
    (script.answer .openCursor).1 = orFault (script.cursorAt 0).openFault () := by
  rw [cursorAt, ← List.head?_eq_getElem?]
  rfl

/-- The cursor opened next becomes the open one. -/
theorem Script.current_openCursor (script : Script) :
    (script.answer .openCursor).2.current = script.cursorAt 0 := by
  rw [cursorAt, ← List.head?_eq_getElem?]
  rfl

end Server

/-! ## Standings -/

/-- What later statements depend on: whether a connection is attached, what the server
will do, and what has been handed over to it. -/
structure Standing where
  attached : Bool
  script : Script
  handed : List (Prepared × List Client.Raw)

namespace Standing

/-- The standing behind a call. -/
def behind (standing : Standing) (request : Request) : Standing :=
  { standing with
    script := (standing.script.answer request).2
    handed := standing.handed ++ request.handed?.toList }

/-- A call that changes nothing about the server and hands nothing over leaves the
standing as it is. -/
theorem behind_eq_self {standing : Standing} {request : Request}
    (sameScript : (standing.script.answer request).2 = standing.script)
    (nothing : request.handed? = none) : standing.behind request = standing := by
  simp [behind, sameScript, nothing]

end Standing

namespace Session

def standing (session : Session) : Standing :=
  { attached := session.context.attached, script := session.wire.script
    handed := session.wire.handed }

/-- The session behind a record. -/
def noted (session : Session) (source : LogSource) (level : LogLevel) (message : Text) : Session :=
  { session with context := session.context.log source level message }

/-- The session behind a call. -/
def behind (session : Session) (request : Request) : Session :=
  { session with wire := (session.wire.call request).2 }

theorem standing_behind (session : Session) (request : Request) :
    (session.behind request).standing = session.standing.behind request := by
  simp only [standing, behind, Standing.behind, Wire.handed_call]
  rfl

end Session

namespace Blocking

variable {α β : Type}

/-! ## Steps of a run -/

/-- Operations one after another can be regrouped. -/
instance : LawfulMonad Blocking :=
  LawfulMonad.mk' Blocking
    (by
      intro α operation
      funext session
      change (operation >>= fun value => pure (id value)) session = operation session
      rw [bind_apply]
      cases operation session with
      | mk result after => cases result <;> rfl)
    (fun _ _ => rfl)
    (by
      intro α β γ first second third
      funext session
      simp only [bind_apply]
      cases first session with
      | mk result after => cases result <;> rfl)

/-- A run that succeeds is made of runs that succeed. -/
theorem bind_run_eq_ok {first : Blocking α} {second : α → Blocking β} {session after : Session}
    {value : β} (ran : (first >>= second) session = (.ok value, after)) :
    ∃ found between, first session = (.ok found, between) ∧
      second found between = (.ok value, after) := by
  rw [bind_apply] at ran
  cases firstRan : first session with
  | mk result between =>
      rw [firstRan] at ran
      cases result with
      | error failure => cases ran
      | ok found => exact ⟨found, between, rfl, ran⟩

theorem bind_run_of_eq_ok {first : Blocking α} {second : α → Blocking β}
    {session between : Session} {found : α} (firstRan : first session = (.ok found, between)) :
    (first >>= second) session = second found between := by
  rw [bind_apply, firstRan]

theorem bind_run_of_eq_error {first : Blocking α} {second : α → Blocking β}
    {session between : Session} {failure : Failure}
    (firstRan : first session = (.error failure, between)) :
    (first >>= second) session = (.error failure, between) := by
  rw [bind_apply, firstRan]

theorem ofExcept_run_eq_ok {outcome : Except Failure α} {session after : Session} {value : α}
    (ran : ofExcept outcome session = (.ok value, after)) :
    outcome = .ok value ∧ after = session := by
  cases outcome with
  | error failure => cases ran
  | ok found =>
      cases ran
      exact ⟨rfl, rfl⟩

theorem call_run (request : Request) (session : Session) :
    call request session =
      (.ok (session.wire.script.answer request).1, session.behind request) := rfl

theorem log_run_eq (source : LogSource) (level : LogLevel) (message : Text) (session : Session) :
    log source level message session = (.ok (), session.noted source level message) := rfl

theorem log_run (source : LogSource) (level : LogLevel) (message : Text) (session : Session) :
    ∃ after, log source level message session = (.ok (), after) ∧
      after.standing = session.standing :=
  ⟨_, log_run_eq .., rfl⟩

theorem context_run (session : Session) : context session = (.ok session.context, session) := rfl

theorem ensureConnection_run {session : Session} (attached : session.standing.attached = true)
    (settings : Settings) : ensureConnection settings session = (.ok (), session) := by
  have attached : session.context.attached = true := attached
  simp [ensureConnection, context, attached]

/-! ## Statements -/

/-- On the open cursor a statement is handed over, and its rows are fetched. -/
theorem fetch_run (statement : Prepared) (parameters : List Client.Raw) (session : Session) :
    ∃ after,
      fetch statement parameters session = (.ok session.wire.script.current.outcome, after) ∧
        after.standing = session.standing.behind (.execute statement parameters) := by
  have executed := session.standing_behind (.execute statement parameters)
  have fetched := (session.behind (.execute statement parameters)).standing_behind .fetchAll
  rw [Standing.behind_eq_self rfl rfl, executed] at fetched
  simp only [fetch, bind_apply, call_run, Script.answer, CursorScript.outcome,
    CursorScript.statementFault?, CursorScript.result]
  cases session.wire.script.current.executeFault with
  | some fault => exact ⟨_, rfl, executed⟩
  | none =>
      simp only [orFault]
      cases session.wire.script.current.reply.description with
      | none => exact ⟨_, rfl, executed⟩
      | some columns =>
          have answer :
              ((session.behind (.execute statement parameters)).wire.script.answer .fetchAll).1 =
                orFault session.wire.script.current.fetchFault
                  session.wire.script.current.rows := rfl
          simp only [bind_apply, call_run, answer]
          cases session.wire.script.current.fetchFault with
          | some fault => exact ⟨_, rfl, fetched⟩
          | none => exact ⟨_, rfl, fetched⟩

/-- The end of a statement: its cursor is closed, and then its outcome is looked at. -/
def conclude (outcome : Except Fault Result) : Blocking Result := do
  orFail .raised (← call .closeCursor)
  let result ← orFail .ofStatement outcome
  log .backend .debug (Notice.completed result)
  return result

theorem conclude_run (outcome : Except Fault Result) {session : Session}
    (closes : session.wire.script.current.closeFault = none) :
    ∃ after, conclude outcome session = (outcome.mapError .ofStatement, after) ∧
      after.standing = session.standing := by
  have closed := session.standing_behind .closeCursor
  rw [Standing.behind_eq_self rfl rfl] at closed
  have answer : (session.wire.script.answer .closeCursor).1 = .ok () := by
    simp only [Script.answer, closes]
    rfl
  rw [conclude, bind_run_of_eq_ok (call_run _ _), answer]
  cases outcome with
  | error fault => exact ⟨_, rfl, closed⟩
  | ok result => exact ⟨_, rfl, closed⟩

/-- A statement can only succeed where its cursor is closed. -/
theorem conclude_run_eq_ok {outcome : Except Fault Result} {session after : Session}
    {result : Result} (ran : conclude outcome session = (.ok result, after)) :
    session.wire.script.current.closeFault = none ∧ outcome = .ok result ∧
      after.standing = session.standing := by
  cases closes : session.wire.script.current.closeFault with
  | some fault =>
      have answer : (session.wire.script.answer .closeCursor).1 = .error fault := by
        simp only [Script.answer, closes]
        rfl
      rw [conclude, bind_run_of_eq_ok (call_run _ _), answer] at ran
      cases ran
  | none =>
      obtain ⟨behind, concluded, standing⟩ := conclude_run outcome closes
      rw [concluded] at ran
      cases outcome with
      | error fault => cases ran
      | ok found =>
          cases ran
          exact ⟨rfl, rfl, standing⟩

/-- What is done for a statement that can be sent: it has a cursor of its own. -/
def carryOut (statement : Prepared) (parameters : List Client.Raw) : Blocking Result := do
  orFail .raised (← call .openCursor)
  let fetched ← fetch statement parameters
  if let .error fault := fetched then
    if fault.isClient then log .backend .error (Notice.failed fault)
  conclude fetched

/-- On an open cursor a statement is handed over, and comes to the conclusion of what the cursor
tells. -/
theorem carryOut_run_of_opened {session : Session}
    (opens : (session.wire.script.cursorAt 0).openFault = none) (statement : Prepared)
    (parameters : List Client.Raw) :
    ∃ fetched,
      carryOut statement parameters session =
          conclude (session.wire.script.cursorAt 0).outcome fetched ∧
        fetched.wire.script.current = session.wire.script.cursorAt 0 ∧
        fetched.standing =
          (session.standing.behind .openCursor).behind (.execute statement parameters) := by
  have opened : (session.wire.script.answer .openCursor).1 = .ok () := by
    rw [Script.answer_openCursor, opens]
    rfl
  have openedRun : orFail Failure.raised (.ok () : Except Fault Unit) (session.behind .openCursor) =
      (.ok (), session.behind .openCursor) := rfl
  obtain ⟨fetched, fetchRun, fetchStanding⟩ :=
    fetch_run statement parameters (session.behind .openCursor)
  rw [Session.standing_behind] at fetchStanding
  have current : (session.behind .openCursor).wire.script.current =
      session.wire.script.cursorAt 0 := by
    rw [← Script.current_openCursor]
    rfl
  have stillCurrent : fetched.wire.script.current = session.wire.script.cursorAt 0 :=
    (congrArg (·.script.current) fetchStanding).trans (Script.current_openCursor _)
  unfold carryOut
  rw [bind_run_of_eq_ok (call_run _ _), opened, bind_run_of_eq_ok openedRun,
    bind_run_of_eq_ok fetchRun, current]
  cases (session.wire.script.cursorAt 0).outcome with
  | ok result => exact ⟨fetched, rfl, stillCurrent, fetchStanding⟩
  | error fault =>
      cases client : fault.isClient with
      | true =>
          obtain ⟨reported, reportRun, reportStanding⟩ :=
            log_run .backend .error (Notice.failed fault) fetched
          have sameCurrent : reported.wire.script.current = fetched.wire.script.current :=
            congrArg (·.script.current) reportStanding
          refine ⟨reported, ?_, sameCurrent.trans stillCurrent, reportStanding.trans fetchStanding⟩
          simp only [client, if_true]
          rw [bind_run_of_eq_ok reportRun]
      | false =>
          refine ⟨fetched, ?_, stillCurrent, fetchStanding⟩
          simp only [client]
          rfl

theorem carryOut_run_of_openFault {session : Session} {fault : Fault}
    (opens : (session.wire.script.cursorAt 0).openFault = some fault) (statement : Prepared)
    (parameters : List Client.Raw) :
    (carryOut statement parameters session).1 = .error (.raised fault) := by
  have opened : (session.wire.script.answer .openCursor).1 = .error fault := by
    rw [Script.answer_openCursor, opens]
    rfl
  rw [carryOut, bind_run_of_eq_ok (call_run _ _), opened]
  rfl

/-- On an attached connection a statement is written into the log, and carried out where it can
be sent. -/
theorem execute_run_eq {session : Session} (attached : session.standing.attached = true)
    (settings : Settings) (statement : Text) (parameters : List Client.Raw) :
    ∃ noted, noted.standing = session.standing ∧
      execute settings statement parameters session =
        match Prepared.ofText statement with
        | .ok prepared => carryOut prepared parameters noted
        | .error unwritable => (.error (.statement unwritable), noted) := by
  obtain ⟨noted, noteRun, noteStanding⟩ :=
    log_run .backend .debug (Notice.executing statement) session
  refine ⟨noted, noteStanding, ?_⟩
  rw [execute, bind_run_of_eq_ok (ensureConnection_run attached settings),
    bind_run_of_eq_ok noteRun]
  cases Prepared.ofText statement with
  | ok prepared => rfl
  | error unwritable => rfl

/-- A statement that cannot be sent ends before a cursor is opened for it. -/
theorem execute_run_of_unwritable {session : Session} {statement : Text}
    {unwritable : Encoding.Unwritable} (attached : session.standing.attached = true)
    (refused : Prepared.ofText statement = .error unwritable) (settings : Settings)
    (parameters : List Client.Raw) :
    ∃ after,
      execute settings statement parameters session = (.error (.statement unwritable), after) ∧
        after.standing = session.standing := by
  obtain ⟨noted, standing, ran⟩ := execute_run_eq attached settings statement parameters
  rw [refused] at ran
  exact ⟨noted, ran, standing⟩

/-- On an attached connection a statement takes the next cursor, is handed over, and comes
to the conclusion of what that cursor tells. -/
theorem execute_run_of_opened {session : Session} {statement : Text} {prepared : Prepared}
    (attached : session.standing.attached = true)
    (made : Prepared.ofText statement = .ok prepared)
    (opens : (session.wire.script.cursorAt 0).openFault = none) (settings : Settings)
    (parameters : List Client.Raw) :
    ∃ fetched,
      execute settings statement parameters session =
          conclude (session.wire.script.cursorAt 0).outcome fetched ∧
        fetched.wire.script.current = session.wire.script.cursorAt 0 ∧
        fetched.standing =
          (session.standing.behind .openCursor).behind (.execute prepared parameters) := by
  obtain ⟨noted, standing, ran⟩ := execute_run_eq attached settings statement parameters
  have sameScript : noted.wire.script = session.wire.script := congrArg Standing.script standing
  rw [made] at ran
  rw [ran, ← standing, ← sameScript]
  exact carryOut_run_of_opened (sameScript ▸ opens) prepared parameters

/-- On an attached connection a statement takes the next cursor, is handed over, and ends
as that cursor tells. -/
theorem execute_run {session : Session} {statement : Text} {prepared : Prepared}
    (attached : session.standing.attached = true)
    (made : Prepared.ofText statement = .ok prepared)
    (opens : (session.wire.script.cursorAt 0).openFault = none)
    (closes : (session.wire.script.cursorAt 0).closeFault = none) (settings : Settings)
    (parameters : List Client.Raw) :
    ∃ after,
      execute settings statement parameters session =
          ((session.wire.script.cursorAt 0).outcome.mapError .ofStatement, after) ∧
        after.standing =
          (session.standing.behind .openCursor).behind (.execute prepared parameters) := by
  obtain ⟨fetched, ran, current, standing⟩ :=
    execute_run_of_opened attached made opens settings parameters
  obtain ⟨after, concluded, sameStanding⟩ :=
    conclude_run (session.wire.script.cursorAt 0).outcome (current.symm ▸ closes)
  exact ⟨after, ran.trans concluded, sameStanding.trans standing⟩

/-- A cursor that cannot be opened ends a statement with the fault as it is. -/
theorem execute_run_of_openFault {session : Session} {statement : Text} {prepared : Prepared}
    {fault : Fault} (attached : session.standing.attached = true)
    (made : Prepared.ofText statement = .ok prepared)
    (opens : (session.wire.script.cursorAt 0).openFault = some fault) (settings : Settings)
    (parameters : List Client.Raw) :
    (execute settings statement parameters session).1 = .error (.raised fault) := by
  obtain ⟨noted, standing, ran⟩ := execute_run_eq attached settings statement parameters
  have sameScript : noted.wire.script = session.wire.script := congrArg Standing.script standing
  rw [made] at ran
  rw [ran]
  exact carryOut_run_of_openFault (sameScript ▸ opens) prepared parameters

/-- A statement that succeeds could be sent, has found a cursor without faults, and was handed
over. -/
theorem execute_run_eq_ok {session after : Session} {settings : Settings} {statement : Text}
    {parameters : List Client.Raw} {result : Result}
    (attached : session.standing.attached = true)
    (ran : execute settings statement parameters session = (.ok result, after)) :
    ∃ prepared, Prepared.ofText statement = .ok prepared ∧
      (session.wire.script.cursorAt 0).Passes ∧
      after.standing =
        (session.standing.behind .openCursor).behind (.execute prepared parameters) := by
  cases made : Prepared.ofText statement with
  | error unwritable =>
      obtain ⟨behind, failed, -⟩ := execute_run_of_unwritable attached made settings parameters
      rw [ran] at failed
      cases failed
  | ok prepared =>
      cases opens : (session.wire.script.cursorAt 0).openFault with
      | some fault =>
          have failed := execute_run_of_openFault attached made opens settings parameters
          rw [ran] at failed
          cases failed
      | none =>
          obtain ⟨fetched, concluding, current, standing⟩ :=
            execute_run_of_opened attached made opens settings parameters
          obtain ⟨closes, succeeded, sameStanding⟩ :=
            conclude_run_eq_ok (concluding.symm.trans ran)
          have passes : (session.wire.script.cursorAt 0).Passes :=
            ⟨opens, CursorScript.statementFault?_of_outcome_eq_ok succeeded, current ▸ closes⟩
          exact ⟨prepared, rfl, passes, sameStanding.trans standing⟩

end Blocking

end SqlDump
