import SqlDump.Proofs.Results
import SqlDump.Proofs.Session.Connections

/-!
# Operations that succeed

An operation that returns has met no fault on its way. A connection was accepted and its time
zone set; each statement of a script can be sent, has had its own cursor, on which nothing failed,
and was handed over behind the statements before it.

Main statements: `executes_of_restoreFile` for the statements of a file, and
`connect_run_eq_ok` for a connection.
-/

namespace SqlDump

open Server

/-- Whether a session is what another one becomes when statements are executed one after
another, each on the next cursor, and none of them fails. -/
structure Session.Executes (before after : Session) (statements : List Text) : Prop where
  hands : before.HandsOver after statements
  sendable : ∀ statement ∈ statements, statement.hasLone = false
  passes : ∀ place < statements.length, (before.wire.script.cursorAt place).Passes

namespace Session

variable {before between after : Session}

theorem executes_of_standing_eq (same : after.standing = before.standing) :
    before.Executes after [] where
  hands := handsOver_of_standing_eq same
  sendable := by simp
  passes := fun _ below => absurd below (Nat.not_lt_zero _)

theorem Executes.trans {first second : List Text} (firstExecutes : before.Executes between first)
    (secondExecutes : between.Executes after second) : before.Executes after (first ++ second) where
  hands := firstExecutes.hands.trans secondExecutes.hands
  sendable := List.forall_mem_append.mpr ⟨firstExecutes.sendable, secondExecutes.sendable⟩
  passes := by
    intro place below
    rcases Nat.lt_or_ge place first.length with inFirst | behindFirst
    · exact firstExecutes.passes place inFirst
    · obtain ⟨later, rfl⟩ := Nat.exists_eq_add_of_le behindFirst
      rw [← firstExecutes.hands.cursorAt]
      rw [List.length_append] at below
      exact secondExecutes.passes later (Nat.lt_of_add_lt_add_left below)

/-- What is written into the log around statements does not matter to them. -/
theorem Executes.between_logs {first last : Session} {statements : List Text}
    (executes : before.Executes after statements) (earlier : before.standing = first.standing)
    (later : last.standing = after.standing) : first.Executes last statements := by
  have behind := executes.trans (executes_of_standing_eq later)
  rw [List.append_nil] at behind
  exact (executes_of_standing_eq earlier).trans behind

end Session

namespace Blocking

variable {settings : Settings} {session after : Session}

/-! ## Statements -/

theorem executes_of_execute {statement : Text} {result : Result}
    (ran : execute settings statement [] session = (.ok result, after))
    (attached : session.context.attached = true) :
    session.Executes after [statement] := by
  obtain ⟨prepared, made, passes, standing⟩ := execute_run_eq_ok attached ran
  refine ⟨Session.handsOver_of_standing_behind made standing, ?_, fun place below => ?_⟩
  · exact List.forall_mem_singleton.mpr (Prepared.hasLone_of_ofText made)
  · obtain rfl : place = 0 := Nat.lt_one_iff.mp below
    exact passes

theorem executes_of_useDatabase {database : Text}
    (ran : useDatabase settings database session = (.ok (), after))
    (attached : session.context.attached = true) :
    session.Executes after [Statement.use database] := by
  obtain ⟨result, between, executed, returned⟩ := bind_run_eq_ok ran
  cases returned
  exact executes_of_execute executed attached

theorem executes_of_executeFrom {total index : Nat} {statements : List Text}
    (ran : executeFrom settings total index statements session = (.ok (), after))
    (attached : session.context.attached = true) :
    session.Executes after statements := by
  induction statements generalizing session index with
  | nil =>
      cases ran
      exact Session.executes_of_standing_eq rfl
  | cons statement rest hypothesis =>
      rw [executeFrom, bind_apply, attempt] at ran
      cases executed : execute settings statement [] session with
      | mk result between =>
          rw [executed] at ran
          cases result with
          | ok result =>
              have first := executes_of_execute executed attached
              exact first.trans (hypothesis ran (first.hands.attached.trans attached))
          | error failure =>
              -- A statement that fails is reported, and its report is a failure.
              simp only [reportFailure] at ran
              split at ran
              · cases ran
              · cases ran

/-! ## Scripts -/

theorem executes_of_executeAll {statements : List Text} {count : Nat}
    (ran : executeAll settings statements session = (.ok count, after))
    (attached : session.context.attached = true) :
    session.Executes after statements := by
  rw [executeAll, bind_run_of_eq_ok (log_run_eq ..)] at ran
  obtain ⟨_, between, executed, returned⟩ := bind_run_eq_ok ran
  have executes := executes_of_executeFrom executed attached
  cases returned
  exact executes.between_logs rfl rfl

/-- A script is executed behind the choice of its database. -/
theorem executes_of_restore {script : Text} {database : Option Text} {count : Nat}
    (ran : restore settings script database session = (.ok count, after))
    (attached : session.context.attached = true) :
    session.Executes after (Statement.choice database ++ Script.statements script) := by
  unfold restore Statement.choice at *
  cases named : database.filter (!·.isEmpty) with
  | none =>
      rw [named] at ran
      exact executes_of_executeAll ran attached
  | some name =>
      rw [named] at ran
      obtain ⟨_, between, used, executed⟩ := bind_run_eq_ok ran
      have choice := executes_of_useDatabase used attached
      exact choice.trans (executes_of_executeAll executed (choice.hands.attached.trans attached))

/-- The script of a file is what the file holds. -/
theorem executes_of_restoreFile {path : Text} {database : Option Text} {count : Nat}
    (ran : restoreFile settings path database session = (.ok count, after))
    (attached : session.context.attached = true) :
    ∃ script, readScript session.context.files path = .ok script ∧
      session.Executes after (Statement.choice database ++ Script.statements script) := by
  rw [restoreFile, bind_run_of_eq_ok (log_run_eq ..), bind_run_of_eq_ok (context_run _)] at ran
  obtain ⟨script, between, found, restored⟩ := bind_run_eq_ok ran
  obtain ⟨read, rfl⟩ := ofExcept_run_eq_ok found
  exact ⟨script, mapError_eq_ok_iff.mp read,
    (executes_of_restore restored attached).between_logs rfl rfl⟩

/-! ## Connections -/

theorem connect_run_eq_ok (ran : connect settings session = (.ok (), after)) :
    session.refusal? = none ∧ settle settings (session.linked settings) = (.ok (), after) := by
  cases refusal : session.refusal? with
  | some fault =>
      rw [connect_run_of_refused refusal] at ran
      cases ran
  | none =>
      rw [connect_run_of_accepted refusal] at ran
      exact ⟨rfl, ran⟩

/-- A connection that is settled has taken a cursor for its time zone. -/
theorem settle_run_eq_ok (set : settings.timezone.isTruthy = true)
    (ran : settle settings session = (.ok (), after)) :
    after.standing =
      (session.standing.behind .openCursor).behind
        (.execute (.text (Query.timezone settings)) []) := by
  rw [settle, if_pos set] at ran
  obtain ⟨_, between, zoned, returned⟩ := bind_run_eq_ok ran
  have standing := setTimezone_run_eq_ok zoned
  cases returned
  exact standing

end Blocking

end SqlDump
