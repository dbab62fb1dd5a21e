import SqlDump.Calendar.Moment
import SqlDump.Statement.Insert

/-!
# What a dump shows

The options of a dump, and the clock whose time stands in its header.
-/

namespace SqlDump

structure DumpOptions where
  /-- Whether the rows of the tables are written. -/
  withData : Bool := true
  /-- Whether each table is removed before it is made. -/
  withDrop : Bool := false
  insertMode : InsertMode := .insert
  headerTitle : Text := text "rhosocial MySQL Dump"
  deriving DecidableEq, Repr

/-- A moment of the calendar, with the seconds it is ahead of UTC where that is known. -/
structure Clock where
  moment : Moment
  offset : Option Int
  deriving DecidableEq, Repr

namespace Clock

def dayNames : List String := ["Mon", "Tue", "Wed", "Thu", "Fri", "Sat", "Sun"]

def monthNames : List String :=
  ["Jan", "Feb", "Mar", "Apr", "May", "Jun", "Jul", "Aug", "Sep", "Oct", "Nov", "Dec"]

/-- The offset from UTC without colons, with its seconds where it has some; an
unknown offset is minus zero. -/
def zone : Option Int → Text
  | none => text "-0000"
  | some offset =>
      let size : Int := offset.natAbs
      text (if offset < 0 then "-" else "+") ++ Numeral.padded 2 (size / 3600) ++
        Numeral.padded 2 (size / 60 % 60) ++
        (if size % 60 = 0 then [] else Numeral.padded 2 (size % 60))

/-- The time as it stands in the header of a mail. -/
def stamp (clock : Clock) : Text :=
  let moment := clock.moment
  text (dayNames[moment.date.weekday]?.getD "") ++ text ", " ++ Numeral.padded 2 moment.day ++
    text " " ++ text (monthNames[(moment.month - 1).toNat]?.getD "") ++ text " " ++
    Numeral.padded 4 moment.year ++ text " " ++ Numeral.padded 2 moment.hour ++ text ":" ++
    Numeral.padded 2 moment.minute ++ text ":" ++ Numeral.padded 2 moment.second ++ text " " ++
    zone clock.offset

end Clock

end SqlDump
