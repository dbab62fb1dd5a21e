import Mathlib.Data.Vector.Defs
import SqlDump.Client.TemporalColumn
import SqlDump.Proofs.Number.Octets
import SqlDump.Proofs.Text.Trimming

/-!
# What the server sends for temporal columns

A date is sent as `YYYY-MM-DD` and a moment as `YYYY-MM-DD HH:MM:SS`, with a fraction of a second
behind a point if the column has one. The digits are any: the server has dates with zeros for
months and days, and days and hours that no calendar has.

Main statement: `fields?_octets` reads what is sent with the fields that are sent.
-/

namespace SqlDump.Client

/-! ## Dates and clocks -/

/-- The digits of a date. -/
structure SentDate where
  year : List.Vector Digit 4
  month : List.Vector Digit 2
  day : List.Vector Digit 2

/-- The digits of a clock. There is a fraction where that has digits. -/
structure SentClock where
  hour : List.Vector Digit 2
  minute : List.Vector Digit 2
  second : List.Vector Digit 2
  fraction : List Digit
  fraction_short : fraction.length ≤ 6

namespace SentDate

def groups (sent : SentDate) : List (List Digit) :=
  [sent.year.toList, sent.month.toList, sent.day.toList]

def octets (sent : SentDate) : Octets :=
  Digit.joined 0x2D sent.groups

/-- The date with the fields that are sent. -/
def date (sent : SentDate) : Date where
  year := Digit.value sent.year.toList
  month := Digit.value sent.month.toList
  day := Digit.value sent.day.toList

theorem octets_append (sent : SentDate) (rest : Octets) :
    sent.octets ++ rest =
      Digit.octets sent.year.toList ++ 0x2D ::
        (Digit.octets sent.month.toList ++ 0x2D :: (Digit.octets sent.day.toList ++ rest)) := by
  simp [octets, groups, Digit.joined]

end SentDate

namespace SentClock

def groups (sent : SentClock) : List (List Digit) :=
  [sent.hour.toList, sent.minute.toList, sent.second.toList]

/-- The octets up to the whole second. -/
def wholeOctets (sent : SentClock) : Octets :=
  Digit.joined 0x3A sent.groups

def fractionOctets (sent : SentClock) : Octets :=
  if sent.fraction = [] then [] else 0x2E :: Digit.octets sent.fraction

def octets (sent : SentClock) : Octets :=
  sent.wholeOctets ++ sent.fractionOctets

/-- The fraction with zeros for the digits that are not sent. -/
def microseconds (sent : SentClock) : List Digit :=
  sent.fraction ++ Digit.zeros (6 - sent.fraction.length)

/-- The moment of a date with the fields that are sent. -/
def moment (sent : SentClock) (date : Date) : Moment where
  year := date.year
  month := date.month
  day := date.day
  hour := Digit.value sent.hour.toList
  minute := Digit.value sent.minute.toList
  second := Digit.value sent.second.toList
  microsecond := Digit.value sent.microseconds

theorem octets_eq (sent : SentClock) :
    sent.octets =
      Digit.octets sent.hour.toList ++ 0x3A ::
        (Digit.octets sent.minute.toList ++ 0x3A ::
          (Digit.octets sent.second.toList ++ sent.fractionOctets)) := by
  simp [octets, wholeOctets, groups, Digit.joined]

theorem octets_of_whole {sent : SentClock} (whole : sent.fraction = []) :
    sent.octets = sent.wholeOctets := by
  simp [octets, fractionOctets, whole]

theorem octets_of_fraction {sent : SentClock} (parted : sent.fraction ≠ []) :
    sent.octets = sent.wholeOctets ++ 0x2E :: Digit.octets sent.fraction := by
  simp [octets, fractionOctets, parted]

theorem value_microseconds_of_whole {sent : SentClock} (whole : sent.fraction = []) :
    Digit.value sent.microseconds = 0 := by
  rw [microseconds, whole]
  rfl

theorem length_microseconds (sent : SentClock) : sent.microseconds.length = 6 := by
  have short := sent.fraction_short
  simp only [microseconds, Digit.zeros, List.length_append, List.length_replicate]
  omega

end SentClock

/-- What the server sends for a value of a column: a date, or a date and a clock. -/
inductive Sent : TemporalColumn → Type where
  | date (date : SentDate) : Sent .date
  | dateTime (date : SentDate) (clock : SentClock) : Sent .dateTime
  | timestamp (date : SentDate) (clock : SentClock) : Sent .timestamp

namespace Sent

def octets {column : TemporalColumn} : Sent column → Octets
  | .date sent => sent.octets
  | .dateTime sent clock => sent.octets ++ 0x20 :: clock.octets
  | .timestamp sent clock => sent.octets ++ 0x20 :: clock.octets

/-- The moment with the fields that are sent, and zeros for those that are not. -/
def moment {column : TemporalColumn} : Sent column → Moment
  | .date sent => .ofDate sent.date
  | .dateTime sent clock => clock.moment sent.date
  | .timestamp sent clock => clock.moment sent.date

end Sent

/-! ## Trimming -/

theorem toList_ne_nil {count : Nat} (found : List.Vector Digit (count + 1)) :
    found.toList ≠ [] :=
  List.ne_nil_of_length_pos (by simp)

/-- Octets that start and end with digits are trimmed already. -/
theorem trimBoth_of_digits {left right : List Digit} (leftFound : left ≠ [])
    (rightFound : right ≠ []) {octets : Octets} (starts : Digit.octets left <+: octets)
    (ends : Digit.octets right <:+ octets) : trimBoth isBlankOctet octets = octets := by
  apply Text.trimBoth_eq_self
  · obtain ⟨rest, rfl⟩ := starts
    cases left with
    | nil => exact absurd rfl leftFound
    | cons digit others => simp
  · obtain ⟨front, rfl⟩ := ends
    rcases right.eq_nil_or_concat' with rfl | ⟨others, digit, rfl⟩
    · exact absurd rfl rightFound
    · simp

theorem trimBoth_date (sent : SentDate) : trimBoth isBlankOctet sent.octets = sent.octets := by
  have shape := sent.octets_append []
  rw [List.append_nil] at shape
  have ends : Digit.octets sent.day.toList <:+ sent.octets :=
    ⟨Digit.octets sent.year.toList ++ 0x2D :: (Digit.octets sent.month.toList ++ [0x2D]),
      by simp [shape]⟩
  exact trimBoth_of_digits (toList_ne_nil sent.year) (toList_ne_nil sent.day) ⟨_, shape.symm⟩ ends

theorem exists_digits_suffix (sent : SentClock) :
    ∃ found : List Digit, found ≠ [] ∧ Digit.octets found <:+ sent.octets := by
  by_cases whole : sent.fraction = []
  · refine ⟨sent.second.toList, toList_ne_nil sent.second,
      Digit.octets sent.hour.toList ++ 0x3A :: (Digit.octets sent.minute.toList ++ [0x3A]), ?_⟩
    simp [sent.octets_eq, SentClock.fractionOctets, whole]
  · refine ⟨sent.fraction, whole, sent.wholeOctets ++ [0x2E], ?_⟩
    simp [SentClock.octets_of_fraction whole]

theorem trimBoth_moment (sent : SentDate) (clock : SentClock) :
    trimBoth isBlankOctet (sent.octets ++ 0x20 :: clock.octets) =
      sent.octets ++ 0x20 :: clock.octets := by
  obtain ⟨found, nonempty, ends⟩ := exists_digits_suffix clock
  exact trimBoth_of_digits (toList_ne_nil sent.year) nonempty
    ⟨_, (sent.octets_append (0x20 :: clock.octets)).symm⟩
    (ends.trans (List.suffix_append_of_suffix (List.suffix_cons ..)))

namespace TemporalColumn

/-! ## Reading field by field -/

/-- A field is read in its full width. -/
theorem number_octets {count : Nat} (found : List.Vector Digit count) (rest : Octets) :
    number count (Digit.octets found.toList ++ rest) =
      some ((Digit.value found.toList : Int), rest) := by
  have width : (Digit.octets found.toList).length = count := by simp
  have taken : (Digit.octets found.toList ++ rest).take count = Digit.octets found.toList :=
    List.take_left' width
  have dropped : (Digit.octets found.toList ++ rest).drop count = rest := List.drop_left' width
  simp [number, exactly, taken, dropped, Digit.mapM_octetDigit?_octets]

@[simp] theorem behind_cons (separator : UInt8) (rest : Octets) :
    behind separator (separator :: rest) = some rest :=
  if_pos rfl

theorem fraction_octets (sent : SentClock) :
    fraction sent.fractionOctets = some (Digit.value sent.microseconds : Int) := by
  by_cases whole : sent.fraction = []
  · simp [fraction, SentClock.fractionOctets, whole, SentClock.value_microseconds_of_whole whole]
  · have read : digitRun octetDigit? (Digit.octets sent.fraction) = (sent.fraction, []) := by
      simpa using @Digit.digitRun_octets sent.fraction [] (by simp)
    have parted : 1 ≤ sent.fraction.length := List.length_pos_iff.mpr whole
    simp [fraction, SentClock.fractionOctets, whole, read, parted, sent.fraction_short,
      SentClock.microseconds]

theorem fields?_date (sent : SentDate) : fields? sent.octets = some (.ofDate sent.date) := by
  have shape := sent.octets_append []
  rw [List.append_nil] at shape
  simp only [fields?, trimBoth_date]
  simp only [shape, number_octets, behind_cons, Option.bind_eq_bind, Option.bind_some]
  rfl

theorem fields?_moment (sent : SentDate) (clock : SentClock) :
    fields? (sent.octets ++ 0x20 :: clock.octets) = some (clock.moment sent.date) := by
  simp only [fields?, trimBoth_moment]
  simp only [sent.octets_append, clock.octets_eq, number_octets, behind_cons, fraction_octets,
    Option.bind_eq_bind, Option.bind_some]
  rfl

/-- What is sent is read with the fields that are sent. -/
theorem fields?_octets {column : TemporalColumn} (sent : Sent column) :
    fields? sent.octets = some sent.moment := by
  cases sent with
  | date sent => exact fields?_date sent
  | dateTime sent clock | timestamp sent clock => exact fields?_moment sent clock

/-! ## What is read was sent -/

theorem number_eq_some {count : Nat} {octets rest : Octets} {value : Int}
    (read : number count octets = some (value, rest)) :
    ∃ found : List.Vector Digit count, octets = Digit.octets found.toList ++ rest ∧
      value = Digit.value found.toList := by
  simp only [number, exactly] at read
  obtain ⟨⟨digits, behind⟩, exactlyRead, read⟩ := Option.bind_eq_some_iff.mp read
  obtain ⟨found, taken, exactlyRead⟩ := Option.bind_eq_some_iff.mp exactlyRead
  split at exactlyRead
  next width =>
    cases exactlyRead
    cases read
    refine ⟨⟨digits, width⟩, ?_, rfl⟩
    rw [List.Vector.toList_mk, ← Digit.eq_octets_of_mapM taken, List.take_append_drop]
  next => cases exactlyRead

theorem behind_eq_some {separator : UInt8} {octets rest : Octets}
    (read : behind separator octets = some rest) : octets = separator :: rest := by
  cases octets with
  | nil => cases read
  | cons octet others =>
      simp only [behind] at read
      split at read
      next same => rw [same, Option.some.inj read]
      next => cases read

theorem fraction_eq_some {octets : Octets} {value : Int} (read : fraction octets = some value) :
    ∃ found : List Digit, found.length ≤ 6 ∧
      octets = (if found = [] then [] else 0x2E :: Digit.octets found) ∧
      value = Digit.value (found ++ Digit.zeros (6 - found.length)) := by
  simp only [fraction] at read
  split at read
  next whole =>
    cases read
    exact ⟨[], by decide, by simpa using whole, rfl⟩
  next =>
    obtain ⟨behindPoint, pointRead, read⟩ := Option.bind_eq_some_iff.mp read
    obtain ⟨word, split, spelled, -⟩ := exists_eq_append_of_digitRun octetDigit? behindPoint
    generalize digitRun octetDigit? behindPoint = run at read split spelled
    obtain ⟨found, rest⟩ := run
    split at read
    next fits =>
      cases read
      obtain ⟨ended, parted, few⟩ := fits
      have nonempty : found ≠ [] := List.ne_nil_of_length_pos parted
      refine ⟨found, few, ?_, rfl⟩
      rw [behind_eq_some pointRead, split, List.isEmpty_iff.mp ended, List.append_nil,
        Digit.eq_octets_of_spelled spelled, if_neg nonempty]
    next => cases read

/-- Only what can be sent is read. -/
theorem exists_sent_of_fields? {octets : Octets} {moment : Moment}
    (read : fields? octets = some moment) :
    ∃ (column : TemporalColumn) (sent : Sent column),
      trimBoth isBlankOctet octets = sent.octets ∧ sent.moment = moment := by
  simp only [fields?] at read
  obtain ⟨⟨year, behindYear⟩, yearRead, read⟩ := Option.bind_eq_some_iff.mp read
  obtain ⟨fromMonth, firstDash, read⟩ := Option.bind_eq_some_iff.mp read
  obtain ⟨⟨month, behindMonth⟩, monthRead, read⟩ := Option.bind_eq_some_iff.mp read
  obtain ⟨fromDay, secondDash, read⟩ := Option.bind_eq_some_iff.mp read
  obtain ⟨⟨day, behindDay⟩, dayRead, read⟩ := Option.bind_eq_some_iff.mp read
  obtain ⟨years, yearSplit, rfl⟩ := number_eq_some yearRead
  obtain ⟨months, monthSplit, rfl⟩ := number_eq_some monthRead
  obtain ⟨days, daySplit, rfl⟩ := number_eq_some dayRead
  have dateShape : trimBoth isBlankOctet octets =
      SentDate.octets { year := years, month := months, day := days } ++ behindDay := by
    rw [SentDate.octets_append, yearSplit, @behind_eq_some _ behindYear _ firstDash, monthSplit,
      @behind_eq_some _ behindMonth _ secondDash, daySplit]
  dsimp only at read
  split at read
  next whole =>
    cases read
    rw [List.isEmpty_iff.mp whole, List.append_nil] at dateShape
    exact ⟨.date, .date { year := years, month := months, day := days }, dateShape, rfl⟩
  next =>
    obtain ⟨fromHour, space, read⟩ := Option.bind_eq_some_iff.mp read
    obtain ⟨⟨hour, behindHour⟩, hourRead, read⟩ := Option.bind_eq_some_iff.mp read
    obtain ⟨fromMinute, firstColon, read⟩ := Option.bind_eq_some_iff.mp read
    obtain ⟨⟨minute, behindMinute⟩, minuteRead, read⟩ := Option.bind_eq_some_iff.mp read
    obtain ⟨fromSecond, secondColon, read⟩ := Option.bind_eq_some_iff.mp read
    obtain ⟨⟨second, behindSecond⟩, secondRead, read⟩ := Option.bind_eq_some_iff.mp read
    obtain ⟨microsecond, fractionRead, read⟩ := Option.bind_eq_some_iff.mp read
    obtain ⟨hours, hourSplit, rfl⟩ := number_eq_some hourRead
    obtain ⟨minutes, minuteSplit, rfl⟩ := number_eq_some minuteRead
    obtain ⟨seconds, secondSplit, rfl⟩ := number_eq_some secondRead
    obtain ⟨parts, few, partsSplit, rfl⟩ := fraction_eq_some fractionRead
    cases read
    refine ⟨.dateTime, .dateTime { year := years, month := months, day := days }
      { hour := hours, minute := minutes, second := seconds, fraction := parts,
        fraction_short := few }, ?_, rfl⟩
    rw [Sent.octets, SentClock.octets_eq, dateShape, @behind_eq_some _ behindDay _ space, hourSplit,
      @behind_eq_some _ behindHour _ firstColon, minuteSplit,
      @behind_eq_some _ behindMinute _ secondColon, secondSplit,
      show behindSecond = _ from partsSplit]
    rfl

end TemporalColumn

end SqlDump.Client
