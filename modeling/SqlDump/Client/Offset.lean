import SqlDump.Client.Display

/-!
# UTC offsets

A moment may know by how many seconds it is ahead of UTC. An offset is a duration
that is shorter than a day in both directions.
-/

namespace SqlDump.Client

/-- Why a number of seconds is no UTC offset. -/
inductive OffsetError where
  | duration (error : DurationError)
  /-- A day or more. -/
  | tooLong (size : Duration)
  deriving DecidableEq, Repr

def OffsetError.message : OffsetError → Text
  | .duration error => error.message
  | .tooLong size =>
      text "offset must be a timedelta strictly between -timedelta(hours=24) and " ++
        text "timedelta(hours=24), not " ++ displayDuration size ++ text "."

/-- A number of seconds that is a UTC offset. -/
def checkOffset (seconds : Int) : Except OffsetError Int :=
  match Duration.ofTotal (seconds * Moment.perSecond) with
  | .error error => .error (.duration error)
  | .ok found =>
      if -Moment.secondsPerDay < seconds ∧ seconds < Moment.secondsPerDay then .ok seconds
      else .error (.tooLong found)

end SqlDump.Client
