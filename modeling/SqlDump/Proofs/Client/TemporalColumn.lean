import Mathlib.Tactic.SplitIfs
import SqlDump.Adapter.Standard
import SqlDump.Proofs.Client.Sent

/-!
# Reading temporal columns

What the server sends is read in two ways. The calendar splits the octets at separators and
makes a date or a moment of the numbers between them if they are real; where they are not, every
field is read in its full width. Both readings see the same fields, and together they leave out
nothing that the server sends.

Main statements: `ofCalendar_eq` says where the calendar has a moment,
`followsCalendar_calendarValue` that its reading follows it, and `stored_as_sent` that any reading
that does so is completed.
-/

namespace SqlDump

/-! ## Moments of the calendar -/

namespace Moment

/-- A date has no wrong field exactly where it is real. -/
theorem dateError?_eq_none_iff {date : Date} : dateError? date = none ↔ date.isReal = true := by
  simp only [dateError?, Date.isReal, Bool.and_eq_true, decide_eq_true_eq]
  split_ifs
  · exact iff_of_true rfl (by omega)
  all_goals exact iff_of_false nofun (by omega)

/-- A clock has no wrong field exactly where it is that of a day. -/
theorem clockError?_eq_none_iff {moment : Moment} :
    moment.clockError? = none ↔ moment.hasClock = true := by
  simp only [clockError?, hasClock, Bool.and_eq_true, decide_eq_true_eq]
  split_ifs
  · exact iff_of_true rfl (by omega)
  all_goals exact iff_of_false nofun (by omega)

/-- A field of few digits fits a machine word. -/
theorem wordError?_eq_none {field : Int} (low : 0 ≤ field) (high : field < 1000000) :
    wordError? field = none := by
  have wide : ¬(field < -0x8000000000000000 ∨ 0x7FFFFFFFFFFFFFFF < field) := by omega
  have small : ¬field < -0x80000000 := by omega
  have large : ¬0x7FFFFFFF < field := by omega
  simp only [wordError?, wide, small, large, if_false]

end Moment

namespace Client.TemporalColumn

open Moment

theorem isWordError_dateError? {date : Date} {error : MomentError}
    (found : dateError? date = some error) : isWordError error = false := by
  simp only [dateError?] at found
  split_ifs at found <;> cases found <;> rfl

theorem isWordError_clockError? {moment : Moment} {error : MomentError}
    (found : moment.clockError? = some error) : isWordError error = false := by
  simp only [clockError?] at found
  split_ifs at found <;> cases found <;> rfl

/-- Fields of few digits are a moment of the calendar exactly where it is real. -/
theorem ofCalendar_eq {moment : Moment}
    (fits : ∀ field ∈ moment.fields, 0 ≤ field ∧ field < 1000000) :
    ofCalendar moment = .ok (if moment.isReal then some moment else none) := by
  have noWord : moment.fields.findSome? wordError? = none := by
    rw [List.findSome?_eq_none_iff]
    exact fun field member => wordError?_eq_none (fits field member).1 (fits field member).2
  simp only [ofCalendar, check, noWord]
  cases date : dateError? moment.date with
  | some error =>
      have notReal : ¬moment.date.isReal = true := by simp [← dateError?_eq_none_iff, date]
      simp [Moment.isReal, notReal, isWordError_dateError? date]
  | none =>
      have real := dateError?_eq_none_iff.mp date
      cases clock : moment.clockError? with
      | some error =>
          have noClock : ¬moment.hasClock = true := by simp [← clockError?_eq_none_iff, clock]
          simp [Moment.isReal, noClock, isWordError_clockError? clock]
      | none => simp [Moment.isReal, real, clockError?_eq_none_iff.mp clock]

/-! ## Numbers that are sent -/

theorem isGroup_vector {count : Nat} (found : List.Vector Digit (count + 1))
    (few : count + 1 ≤ Numeral.limit) :
    found.toList ≠ [] ∧ found.toList.length ≤ Numeral.limit :=
  ⟨toList_ne_nil found, by simpa using few⟩

theorem isGroup_date (sent : SentDate) :
    ∀ found ∈ sent.groups, found ≠ [] ∧ found.length ≤ Numeral.limit := by
  have year := isGroup_vector sent.year (by decide)
  have month := isGroup_vector sent.month (by decide)
  have day := isGroup_vector sent.day (by decide)
  simp only [SentDate.groups, List.forall_mem_cons]
  exact ⟨year, month, day, List.forall_mem_nil _⟩

theorem isGroup_clock (sent : SentClock) :
    ∀ found ∈ sent.groups, found ≠ [] ∧ found.length ≤ Numeral.limit := by
  have hour := isGroup_vector sent.hour (by decide)
  have minute := isGroup_vector sent.minute (by decide)
  have second := isGroup_vector sent.second (by decide)
  simp only [SentClock.groups, List.forall_mem_cons]
  exact ⟨hour, minute, second, List.forall_mem_nil _⟩

/-- A field of at most six digits is a small number. -/
theorem value_bounds {found : List Digit} (few : found.length ≤ 6) :
    0 ≤ (Digit.value found : Int) ∧ (Digit.value found : Int) < 1000000 := by
  have bound := Digit.value_lt found
  have places : 10 ^ found.length ≤ 10 ^ 6 := Nat.pow_le_pow_right (by decide) few
  rw [Nat.pow_eq] at bound
  omega

theorem fields_bounds_date (sent : SentDate) :
    ∀ field ∈ (Moment.ofDate sent.date).fields, 0 ≤ field ∧ field < 1000000 := by
  have year := @value_bounds sent.year.toList (by simp)
  have month := @value_bounds sent.month.toList (by simp)
  have day := @value_bounds sent.day.toList (by simp)
  have zero : (0 : Int) ≤ 0 ∧ (0 : Int) < 1000000 := by decide
  simp only [Moment.fields, List.forall_mem_cons]
  exact ⟨year, month, day, zero, zero, zero, zero, List.forall_mem_nil _⟩

theorem fields_bounds_moment (sent : SentDate) (clock : SentClock) :
    ∀ field ∈ (clock.moment sent.date).fields, 0 ≤ field ∧ field < 1000000 := by
  have year := @value_bounds sent.year.toList (by simp)
  have month := @value_bounds sent.month.toList (by simp)
  have day := @value_bounds sent.day.toList (by simp)
  have hour := @value_bounds clock.hour.toList (by simp)
  have minute := @value_bounds clock.minute.toList (by simp)
  have second := @value_bounds clock.second.toList (by simp)
  have microsecond := value_bounds clock.length_microseconds.le
  simp only [Moment.fields, List.forall_mem_cons]
  exact ⟨year, month, day, hour, minute, second, microsecond, List.forall_mem_nil _⟩

/-! ## Reading by the calendar -/

/-- Two parts are found on the two sides of a separator that neither of them has. -/
theorem twoParts_append {separator : UInt8} {left right : Octets} (leftApart : separator ∉ left)
    (rightApart : separator ∉ right) :
    twoParts separator (left ++ separator :: right) = .ok (left, right) := by
  rw [twoParts, List.splitOn_append_cons_self_of_not_mem leftApart,
    List.splitOn_eq_singleton rightApart]

theorem numbers_joined {separator : UInt8} (noDigit : octetDigit? separator = none)
    {groups : List (List Digit)} (nonempty : groups ≠ [])
    (each : ∀ found ∈ groups, found ≠ [] ∧ found.length ≤ Numeral.limit) :
    numbers separator (Digit.joined separator groups) =
      .ok (groups.map fun found => (Digit.value found : Int)) := by
  rw [numbers, Digit.splitOn_joined noDigit nonempty, Numeral.ofEachOctets_octets each]

theorem length_wholeOctets (sent : SentClock) : sent.wholeOctets.length = 8 := by
  simp [SentClock.wholeOctets, SentClock.groups, Digit.joined]

theorem clockParts_octets (sent : SentClock) :
    clockParts sent.octets = .ok (sent.wholeOctets, (Digit.value sent.microseconds : Int)) := by
  -- A fraction is looked for in clocks that are longer than their whole seconds.
  by_cases whole : sent.fraction = []
  · have short : sent.octets.length ≤ 8 := by
      rw [SentClock.octets_of_whole whole, length_wholeOctets]
    rw [clockParts, if_pos short, SentClock.octets_of_whole whole,
      SentClock.value_microseconds_of_whole whole]
    rfl
  · have shape := SentClock.octets_of_fraction whole
    have long : ¬sent.octets.length ≤ 8 := by
      rw [shape, List.length_append, length_wholeOctets, List.length_cons]
      omega
    have point : octetDigit? 0x2E = none := rfl
    have wholeApart : 0x2E ∉ sent.wholeOctets := Digit.not_mem_joined point (by decide) _
    have fractionApart := Digit.not_mem_octets point sent.fraction
    have padded : Digit.octets sent.fraction ++ List.replicate (6 - sent.fraction.length) 0x30 =
        Digit.octets sent.microseconds := by
      simp [SentClock.microseconds]
    have width := sent.length_microseconds
    have numeral : Numeral.ofOctets (Digit.octets sent.microseconds) =
        .ok (Digit.value sent.microseconds : Int) :=
      Numeral.ofOctets_octets (List.ne_nil_of_length_pos (by omega)) (by rw [width]; decide)
    rw [clockParts, if_neg long, shape, twoParts_append wholeApart fractionApart]
    simp only [bind, Except.bind, Digit.length_octets, padded, numeral]
    rfl

theorem calendarDate_octets (shown : Text) (sent : SentDate) :
    calendarDate shown sent.octets =
      .ok (if (Moment.ofDate sent.date).isReal then some sent.date else none) := by
  have dash : octetDigit? 0x2D = none := rfl
  have parts : sent.octets.splitOn 0x2D = sent.groups.map Digit.octets :=
    Digit.splitOn_joined dash (by simp [SentDate.groups])
  have three : (sent.groups.map Digit.octets).length = 3 := rfl
  simp only [calendarDate, parts, three, Numeral.ofEachOctets_octets (isGroup_date sent)]
  change (do return (← ofCalendar (.ofDate sent.date)).map Moment.date) = _
  rw [ofCalendar_eq (fields_bounds_date sent)]
  split <;> rfl

theorem calendarMoment_octets (shown : Text) (sent : SentDate) (clock : SentClock) :
    calendarMoment shown (sent.octets ++ 0x20 :: clock.octets) =
      .ok (if (clock.moment sent.date).isReal then some (clock.moment sent.date) else none) := by
  have blank : octetDigit? 0x20 = none := rfl
  have dateApart : 0x20 ∉ sent.octets := Digit.not_mem_joined blank (by decide) _
  have wholeApart : 0x20 ∉ clock.wholeOctets := Digit.not_mem_joined blank (by decide) _
  have clockApart : 0x20 ∉ clock.octets := by
    have fractionApart := Digit.not_mem_octets blank clock.fraction
    rw [SentClock.octets, List.mem_append, SentClock.fractionOctets]
    split <;> simp [wholeApart, fractionApart]
  have dash : octetDigit? 0x2D = none := rfl
  have dateNumbers := numbers_joined dash (by simp [SentDate.groups]) (isGroup_date sent)
  have colon : octetDigit? 0x3A = none := rfl
  have clockNumbers := numbers_joined colon (by simp [SentClock.groups]) (isGroup_clock clock)
  rw [calendarMoment, twoParts_append dateApart clockApart]
  simp only [bind, Except.bind, clockParts_octets]
  rw [SentDate.octets, SentClock.wholeOctets, dateNumbers, clockNumbers]
  exact ofCalendar_eq (fields_bounds_moment sent clock)

/-- How a moment of the calendar is read. -/
def calendarRaw (column : TemporalColumn) (moment : Moment) : Raw :=
  match column with
  | .date => .date moment.date
  | .dateTime | .timestamp => .moment moment none

/-- A reading of octets that has what is sent where the calendar has it, and nothing where the
calendar has it not. -/
def FollowsCalendar {ε : Type} (column : TemporalColumn) (base : Octets → Except ε (Option Raw)) :
    Prop :=
  ∀ sent : Sent column, base sent.octets =
    .ok (if sent.moment.isReal then some (column.calendarRaw sent.moment) else none)

theorem followsCalendar_calendarValue (column : TemporalColumn) (shown : Text) :
    FollowsCalendar column (column.calendarValue shown) := by
  intro sent
  cases sent with
  | date sent =>
      rw [calendarValue, Sent.octets, calendarDate_octets, Sent.moment]
      split <;> rfl
  | dateTime sent clock | timestamp sent clock =>
      rw [calendarValue, Sent.octets, calendarMoment_octets, Sent.moment]
      split <;> rfl

/-! ## Reading what the calendar has not -/

/-- What `base` reads, and the fields as they are where it reads nothing. -/
def readThrough {ε : Type} (base : Octets → Except ε (Option Raw)) (octets : Octets) :
    Except ε Raw := do
  match ← base octets with
  | some value => return value
  | none => return storedValue octets

/-- Octets of a column are read through the calendar. -/
theorem exists_read_eq_readThrough (column : TemporalColumn) {form : OctetForm}
    (readable : form ≠ .view) (octets : Octets) :
    ∃ shown, column.read (.octets form octets) =
      readThrough (column.calendarValue shown) octets := by
  cases form with
  | plain => exact ⟨_, rfl⟩
  | buffer => exact ⟨_, rfl⟩
  | view => exact absurd rfl readable

theorem ofRaw_calendarRaw {column : TemporalColumn} (sent : Sent column) (kind : Option Kind) :
    Value.ofRaw kind (column.calendarRaw sent.moment) = .ok (.dateTime sent.moment) := by
  cases sent <;> rfl

section Completed

variable {ε : Type} {column : TemporalColumn} {base : Octets → Except ε (Option Raw)}

/-- A reading that follows the calendar is completed on the other side of the calendar. -/
theorem exists_readThrough (follows : FollowsCalendar column base) (sent : Sent column)
    (kind : Option Kind) :
    ∃ raw, readThrough base sent.octets = .ok raw ∧
      Value.ofRaw kind raw = .ok (.dateTime sent.moment) := by
  have read := follows sent
  -- On both sides of the border the fields are those of `sent.moment`.
  by_cases real : sent.moment.isReal = true
  · rw [if_pos real] at read
    refine ⟨column.calendarRaw sent.moment, ?_, ofRaw_calendarRaw sent kind⟩
    rw [readThrough, read]
    rfl
  · rw [if_neg real] at read
    have stored : storedValue sent.octets = .stored (.dateTime sent.moment) := by
      rw [storedValue, fields?_octets]
    refine ⟨.stored (.dateTime sent.moment), ?_, rfl⟩
    rw [readThrough, read, ← stored]
    rfl

/-- Whatever the server sends for a column is stored with the fields that are sent: through any
reading that follows the calendar, and through the one that columns have. -/
theorem stored_as_sent (follows : FollowsCalendar column base) (sent : Sent column)
    (kind : Option Kind) {form : OctetForm} (readable : form ≠ .view) :
    (∃ raw, readThrough base sent.octets = .ok raw ∧
      Value.ofRaw kind raw = .ok (.dateTime sent.moment)) ∧
    ∃ raw, column.read (.octets form sent.octets) = .ok raw ∧
      Value.ofRaw kind raw = .ok (.dateTime sent.moment) := by
  refine ⟨exists_readThrough follows sent kind, ?_⟩
  obtain ⟨shown, same⟩ := exists_read_eq_readThrough column readable sent.octets
  rw [same]
  exact exists_readThrough (followsCalendar_calendarValue column shown) sent kind

end Completed

/-- The moment 2024-00-10 12:30:45.5, which no calendar has. -/
def zeroMonth : Sent .dateTime :=
  .dateTime { year := ⟨[2, 0, 2, 4], rfl⟩, month := ⟨[0, 0], rfl⟩, day := ⟨[1, 0], rfl⟩ }
    { hour := ⟨[1, 2], rfl⟩, minute := ⟨[3, 0], rfl⟩, second := ⟨[4, 5], rfl⟩
      fraction := [5], fraction_short := by decide }

example : zeroMonth.octets = "2024-00-10 12:30:45.5".toUTF8.toList := by decide +kernel

theorem stored_as_sent_zeroMonth :
    FollowsCalendar .dateTime (calendarValue .dateTime []) ∧
      (∃ raw, readThrough (calendarValue .dateTime []) zeroMonth.octets = .ok raw ∧
        Value.ofRaw none raw = .ok (.dateTime
          { year := 2024, month := 0, day := 10, hour := 12, minute := 30, second := 45
            microsecond := 500000 })) ∧
      ∃ raw, read .dateTime (.octets .buffer zeroMonth.octets) = .ok raw ∧
        Value.ofRaw none raw = .ok (.dateTime
          { year := 2024, month := 0, day := 10, hour := 12, minute := 30, second := 45
            microsecond := 500000 }) :=
  ⟨followsCalendar_calendarValue .dateTime [],
    stored_as_sent (followsCalendar_calendarValue .dateTime []) zeroMonth none (by decide)⟩

end Client.TemporalColumn

end SqlDump
