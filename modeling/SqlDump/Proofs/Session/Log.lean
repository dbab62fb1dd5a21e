import SqlDump.Proofs.Session.Frame

/-!
# Operations and the log

Operations write records into the log and never read one. Two sessions that differ
in their logs only give the same result, and still differ in their logs only
behind it.

Main statements: `OnServer.ignoresLog` for operations on the server, and
`IgnoresLog.run_eq_ok` for a run with another log.
-/

namespace SqlDump

open Server

/-- A session with an empty log. -/
def Session.silent (session : Session) : Session :=
  { session with context := { session.context with records := [] } }

theorem Session.silent_eq_iff {left right : Session} :
    left.silent = right.silent ↔
      left.wire = right.wire ∧ left.context.attached = right.context.attached ∧
        left.context.files = right.context.files := by
  simp only [silent, mk.injEq, Context.mk.injEq, and_true]
  exact And.comm

namespace Blocking

variable {α β : Type}

/-- Whether the records of the log do not matter to an operation. -/
structure IgnoresLog (operation : Blocking α) : Prop where
  agrees : ∀ left right : Session, left.silent = right.silent →
    (operation left).1 = (operation right).1 ∧
      (operation left).2.silent = (operation right).2.silent

/-- A run that succeeds does so with another log too. -/
theorem IgnoresLog.run_eq_ok {operation : Blocking α} (ignores : IgnoresLog operation)
    {left right after : Session} (same : left.silent = right.silent) {value : α}
    (ran : operation right = (.ok value, after)) :
    ∃ behind, operation left = (.ok value, behind) ∧ behind.silent = after.silent := by
  obtain ⟨sameResult, sameAfter⟩ := ignores.agrees left right same
  rw [ran] at sameResult sameAfter
  exact ⟨(operation left).2, Prod.ext sameResult rfl, sameAfter⟩

theorem IgnoresLog.andThen {first : Blocking α} {second : α → Blocking β}
    (firstIgnores : IgnoresLog first) (secondIgnores : ∀ value, IgnoresLog (second value)) :
    IgnoresLog (first >>= second) := by
  constructor
  intro left right same
  obtain ⟨sameResult, sameAfter⟩ := firstIgnores.agrees left right same
  simp only [bind_apply]
  cases leftRun : first left with
  | mk leftResult leftAfter =>
      cases rightRun : first right with
      | mk rightResult rightAfter =>
          rw [leftRun, rightRun] at sameResult sameAfter
          cases sameResult
          cases leftResult with
          | error failure => exact ⟨rfl, sameAfter⟩
          | ok value => exact (secondIgnores value).agrees _ _ sameAfter

theorem ignoresLog_call (request : Request) : IgnoresLog (call request) := by
  constructor
  intro left right same
  have sameWire : left.wire = right.wire := (Session.silent_eq_iff.mp same).1
  have sameContext := (Session.silent_eq_iff.mp same).2
  simp only [call, sameWire]
  exact ⟨trivial, Session.silent_eq_iff.mpr ⟨rfl, sameContext⟩⟩

theorem ignoresLog_setAttached (attached : Bool) : IgnoresLog (modify ({ · with attached })) := by
  constructor
  intro left right same
  obtain ⟨sameWire, -, sameFiles⟩ := Session.silent_eq_iff.mp same
  exact ⟨rfl, Session.silent_eq_iff.mpr ⟨sameWire, rfl, sameFiles⟩⟩

/-- What depends on whether a connection is attached does not depend on the log. -/
theorem ignoresLog_byAttached {next : Bool → Blocking α}
    (ignores : ∀ attached, IgnoresLog (next attached)) :
    IgnoresLog (context >>= fun current => next current.attached) := by
  constructor
  intro left right same
  have sameAttached := (Session.silent_eq_iff.mp same).2.1
  have leftRun : (context >>= fun current => next current.attached) left =
      next left.context.attached left := rfl
  have rightRun : (context >>= fun current => next current.attached) right =
      next right.context.attached right := rfl
  rw [leftRun, rightRun, sameAttached]
  exact (ignores _).agrees left right same

/-- An operation on the server gives the same result whatever the log holds. -/
theorem OnServer.ignoresLog {operation : Blocking α} (made : OnServer operation) :
    IgnoresLog operation := by
  induction made with
  | done value => exact ⟨fun _ _ same => ⟨rfl, same⟩⟩
  | fail failure => exact ⟨fun _ _ same => ⟨rfl, same⟩⟩
  | andThen _ _ firstIgnores secondIgnores => exact firstIgnores.andThen secondIgnores
  | log source level message => exact ⟨fun _ _ same => ⟨rfl, same⟩⟩
  | call request => exact ignoresLog_call request
  | setAttached attached => exact ignoresLog_setAttached attached
  | byAttached _ ignores => exact ignoresLog_byAttached ignores

end Blocking

end SqlDump
