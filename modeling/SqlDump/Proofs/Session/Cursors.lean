import SqlDump.Proofs.Session.Course

/-!
# Cursors of a session

An operation that is handed a cursor closes it before it ends, whatever ends it: the result,
a fault of opening, executing, fetching, making a result or closing, or anything behind the
cursor. A cursor that was closed is left alone ever after.

Main statements: `Session.perform_closings` for one operation, and
`Session.performAll_closings` for a sequence.
-/

namespace SqlDump

open Server

namespace Session

variable (session : Session) (waiting : Waiting) (settings : Settings)

/-- The cursors handed out to an operation are closed once each when it ends. -/
theorem perform_closings (operation : Operation) :
    let after := (session.perform waiting settings operation).2
    (∃ opened, closings after.wire.history =
        List.replicate opened 1 ++ closings session.wire.history) ∧
      openCursors after.wire.history = openCursors session.wire.history := by
  have course := session.perform_course waiting settings operation
  have sameClosings : closings (session.departure settings operation).history =
      closings session.wire.history := by
    unfold departure
    split <;> rfl
  have sameCursors : openCursors (session.departure settings operation).history =
      openCursors session.wire.history := by
    unfold departure
    split
    · exact Int.zero_add _
    · rfl
  exact ⟨sameClosings ▸ course.closings_eq, sameCursors ▸ course.openCursors_eq⟩

/-- In a sequence of operations every cursor that is handed out is closed exactly once, and
before the next operation begins; there are no other calls to close a cursor. -/
theorem performAll_closings (operations : List Operation) :
    let after := (session.performAll waiting settings operations).2
    (∃ opened, closings after.wire.history =
        List.replicate opened 1 ++ closings session.wire.history) ∧
      openCursors after.wire.history = openCursors session.wire.history := by
  induction operations generalizing session with
  | nil => exact ⟨⟨0, rfl⟩, rfl⟩
  | cons operation rest hypothesis =>
      obtain ⟨⟨early, first⟩, firstOpen⟩ := session.perform_closings waiting settings operation
      obtain ⟨⟨late, others⟩, othersOpen⟩ :=
        hypothesis (session.perform waiting settings operation).2
      refine ⟨⟨late + early, ?_⟩, othersOpen.trans firstOpen⟩
      have behind : (session.performAll waiting settings (operation :: rest)).2 =
          ((session.perform waiting settings operation).2.performAll waiting settings rest).2 :=
        rfl
      rw [behind, others, first, ← List.append_assoc, List.replicate_append_replicate]

end Session

end SqlDump
