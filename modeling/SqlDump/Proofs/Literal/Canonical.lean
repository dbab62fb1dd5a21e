import SqlDump.Proofs.Literal.Branches
import SqlDump.Proofs.Literal.RoundTrip

/-!
# What the reader returns

One value has many literals: short fields, missing fractions, other quotes and needless
escapes. The fields that the reader takes from any of them are bounded by their numbers of
digits and by the checks behind them, so a moment that it returns is one that the server
stores and a span is in normal form. The writer is exact on these, so nothing is lost when a
value that has been read is written and read again.

Main statements: `isStored_of_readMoment` and `isNormal_of_readSpan` bound what is read, and
`decode_encode_of_decode` says that it is kept.
-/

namespace SqlDump

/-- A number is written with no more digits than it was read from. -/
theorem length_digits_value_le {found : List Digit} (nonempty : found ≠ []) :
    (digits (Digit.value found)).length ≤ found.length := by
  obtain ⟨width, size⟩ := Nat.exists_eq_succ_of_ne_zero (List.length_pos_iff.mpr nonempty).ne'
  rw [size]
  apply length_digits_le
  have fits := Digit.value_lt found
  rwa [size] at fits

namespace Literal

/-! ## Fields -/

theorem field_eq_some_iff {least most : Nat} {content rest : Text} {found : List Digit} :
    field least most content = some (found, rest) ↔
      digitRun Symbol.digit? content = (found, rest) ∧ least ≤ found.length ∧
        found.length ≤ most := by
  simp only [field]
  obtain ⟨run, behind⟩ := digitRun Symbol.digit? content
  constructor
  · intro read
    split at read
    next fits =>
      cases read
      exact ⟨rfl, fits⟩
    next => cases read
  · rintro ⟨same, fits⟩
    cases same
    rw [if_pos fits]

/-- The number of a field fits its places. -/
theorem value_field_lt {least most : Nat} {content rest : Text} {found : List Digit}
    (read : field least most content = some (found, rest)) :
    Digit.value found < Nat.pow 10 most := by
  obtain ⟨-, -, few⟩ := field_eq_some_iff.mp read
  calc
    Digit.value found < Nat.pow 10 found.length := Digit.value_lt found
    _ ≤ Nat.pow 10 most := Nat.pow_le_pow_right (by decide) few

theorem length_endFraction_le {content : Text} {fraction : List Digit}
    (read : endFraction content = some fraction) : fraction.length ≤ 6 := by
  simp only [endFraction] at read
  split at read
  next =>
    cases read
    decide
  next =>
    obtain ⟨rest, -, read⟩ := Option.bind_eq_some_iff.mp read
    obtain ⟨⟨found, behind⟩, fieldRead, read⟩ := Option.bind_eq_some_iff.mp read
    obtain ⟨-, -, few⟩ := field_eq_some_iff.mp fieldRead
    split at read
    next => exact Option.some.inj read ▸ few
    next => cases read

/-- A fraction is filled up to six digits. -/
theorem microseconds_lt {fraction : List Digit} (few : fraction.length ≤ 6) :
    microseconds fraction < 1000000 := by
  have fits := Digit.value_lt (fraction ++ Digit.zeros (6 - fraction.length))
  have filled : (fraction ++ Digit.zeros (6 - fraction.length)).length = 6 := by
    simp only [Digit.zeros, List.length_append, List.length_replicate]
    omega
  rw [filled] at fits
  exact Int.ofNat_lt.mpr fits

theorem endClock_bounds {content : Text} {minute second microsecond : Int}
    (read : endClock content = some (minute, second, microsecond)) :
    0 ≤ minute ∧ 0 ≤ second ∧ 0 ≤ microsecond ∧ microsecond < 1000000 := by
  simp only [endClock] at read
  obtain ⟨⟨minutes, rest⟩, -, read⟩ := Option.bind_eq_some_iff.mp read
  obtain ⟨rest, -, read⟩ := Option.bind_eq_some_iff.mp read
  obtain ⟨⟨seconds, rest⟩, -, read⟩ := Option.bind_eq_some_iff.mp read
  obtain ⟨fraction, fractionRead, read⟩ := Option.bind_eq_some_iff.mp read
  cases read
  exact ⟨Int.natCast_nonneg _, Int.natCast_nonneg _, Int.natCast_nonneg _,
    microseconds_lt (length_endFraction_le fractionRead)⟩

/-! ## Moments -/

theorem dateFields_bounds {content rest : Text} {date : Date}
    (read : dateFields content = some (date, rest)) :
    0 ≤ date.year ∧ date.year < 10000 ∧ 0 ≤ date.month ∧ 0 ≤ date.day := by
  simp only [dateFields] at read
  obtain ⟨⟨year, rest⟩, yearRead, read⟩ := Option.bind_eq_some_iff.mp read
  obtain ⟨rest, -, read⟩ := Option.bind_eq_some_iff.mp read
  obtain ⟨⟨month, rest⟩, -, read⟩ := Option.bind_eq_some_iff.mp read
  obtain ⟨rest, -, read⟩ := Option.bind_eq_some_iff.mp read
  obtain ⟨⟨day, rest⟩, -, read⟩ := Option.bind_eq_some_iff.mp read
  cases read
  exact ⟨Int.natCast_nonneg _, Int.ofNat_lt.mpr (value_field_lt yearRead), Int.natCast_nonneg _,
    Int.natCast_nonneg _⟩

/-- Whether the parts of a moment fit the places that a literal has for them. -/
structure FitsPlaces (moment : Moment) : Prop where
  year : 0 ≤ moment.year ∧ moment.year < 10000
  month : 0 ≤ moment.month
  day : 0 ≤ moment.day
  hour : 0 ≤ moment.hour
  minute : 0 ≤ moment.minute
  second : 0 ≤ moment.second
  microsecond : 0 ≤ moment.microsecond ∧ moment.microsecond < 1000000

theorem fitsPlaces_of_momentFields {content : Text} {moment : Moment}
    (read : momentFields content = some moment) : FitsPlaces moment := by
  simp only [momentFields] at read
  obtain ⟨⟨date, rest⟩, dateRead, read⟩ := Option.bind_eq_some_iff.mp read
  obtain ⟨yearLow, yearHigh, month, day⟩ := dateFields_bounds dateRead
  split at read
  next =>
    cases read
    exact ⟨⟨yearLow, yearHigh⟩, month, day, Int.le_refl 0, Int.le_refl 0, Int.le_refl 0,
      Int.le_refl 0, Int.ofNat_lt.mpr (by decide)⟩
  next =>
    obtain ⟨rest, -, read⟩ := Option.bind_eq_some_iff.mp read
    obtain ⟨⟨hour, rest⟩, -, read⟩ := Option.bind_eq_some_iff.mp read
    obtain ⟨rest, -, read⟩ := Option.bind_eq_some_iff.mp read
    obtain ⟨⟨minute, second, microsecond⟩, clockRead, read⟩ := Option.bind_eq_some_iff.mp read
    obtain ⟨minuteLow, secondLow, microsecondBounds⟩ := endClock_bounds clockRead
    cases read
    exact ⟨⟨yearLow, yearHigh⟩, month, day, Int.natCast_nonneg _, minuteLow, secondLow,
      microsecondBounds⟩

/-- The server stores what fits the places and passes the check of the reader. -/
theorem isStored_of_isStorable {moment : Moment} (fits : FitsPlaces moment)
    (storable : isStorable moment = true) : moment.isStored = true := by
  obtain ⟨⟨yearLow, yearHigh⟩, month, day, hour, minute, second, ⟨low, high⟩⟩ := fits
  simp only [isStorable, isStorableDate, Bool.and_eq_true, decide_eq_true_eq] at storable
  obtain ⟨⟨⟨hourHigh, minuteHigh⟩, secondHigh⟩, date⟩ := storable
  have clock : moment.hasClock = true := by
    simp only [Moment.hasClock, Bool.and_eq_true, decide_eq_true_eq]
    omega
  simp only [Moment.isStored, clock, Bool.and_eq_true, Bool.or_eq_true, decide_eq_true_eq]
  refine ⟨⟨⟨yearLow, by omega⟩, trivial⟩, ?_⟩
  split at date
  next zero =>
    simp only [Bool.and_eq_true, decide_eq_true_eq] at date
    simp only [Moment.date] at zero date
    exact .inr (by omega)
  next => exact .inl date

theorem isStored_of_readMoment {content : Text} {moment : Moment}
    (read : readMoment content = .ok moment) : moment.isStored = true := by
  simp only [readMoment] at read
  split at read
  next => cases read
  next found fieldsRead =>
    split at read
    next storable =>
      cases read
      exact isStored_of_isStorable (fitsPlaces_of_momentFields fieldsRead) storable
    next => cases read

/-! ## Time spans -/

theorem spanFields_bounds {content : Text} {negative : Bool} {hours : List Digit}
    {minutes seconds microseconds : Int}
    (read : spanFields content = some (negative, hours, minutes, seconds, microseconds)) :
    hours ≠ [] ∧ 0 ≤ minutes ∧ 0 ≤ seconds ∧ 0 ≤ microseconds ∧ microseconds < 1000000 := by
  simp only [spanFields] at read
  split at read
  next => cases read
  next found rest nonempty run =>
    obtain ⟨rest, -, read⟩ := Option.bind_eq_some_iff.mp read
    obtain ⟨clock, clockRead, read⟩ := Option.bind_eq_some_iff.mp read
    cases read
    exact ⟨nonempty, endClock_bounds clockRead⟩

/-- The days of a span are folded out of its hours, which have no more digits than they
were read from. -/
theorem isNormal_of_readSpan {content : Text} {span : TimeSpan}
    (read : readSpan content = .ok span) : span.isNormal = true := by
  simp only [readSpan] at read
  split at read
  next => cases read
  next negative hours minutes seconds microseconds fieldsRead =>
    obtain ⟨nonempty, minutesLow, secondsLow, low, high⟩ := spanFields_bounds fieldsRead
    obtain ⟨inRange, read⟩ := guard_eq_ok_iff.mp read
    obtain ⟨notTooMany, read⟩ := guard_eq_ok_iff.mp read
    cases read
    have total : (Digit.value hours : Int) / 24 * 24 + (Digit.value hours : Int) % 24 =
        Digit.value hours := by
      omega
    have short : (digits (Digit.value hours)).length ≤ Numeral.limit :=
      Nat.le_trans (length_digits_value_le nonempty) (Nat.not_lt.mp notTooMany)
    simp only [TimeSpan.isNormal, TimeSpan.totalHours, total, Int.natAbs_natCast, short,
      Bool.and_eq_true, decide_eq_true_eq, and_true]
    omega

/-! ## Values -/

theorem isExact_of_readContent {kind : Option Kind} {content : Text} {value : Value}
    (read : readContent kind content = .ok value) : value.isExact = true := by
  simp only [readContent] at read
  split at read
  next =>
    split at read
    next momentRead =>
      cases read
      exact isStored_of_readMoment momentRead
    next => cases read
  next =>
    split at read
    next spanRead =>
      cases read
      exact isNormal_of_readSpan spanRead
    next => cases read
  next =>
    rw [readOctets] at read
    split at read
    next =>
      cases read
      rfl
    next => cases read

theorem isExact_of_readBody {kind : Option Kind} {quote : Symbol} {body : Text} {value : Value}
    (read : readBody kind quote body = .ok value) : value.isExact = true := by
  simp only [readBody] at read
  split at read
  next => exact isExact_of_readContent read
  next => cases read

theorem isExact_of_readInteger {negative : Bool} {found : List Digit} {value : Value}
    (read : readInteger negative found = .ok value) : value.isExact = true := by
  obtain ⟨-, read⟩ := guard_eq_ok_iff.mp read
  simp only at read
  split at read
  next =>
    cases read
    rfl
  next => cases read

theorem kind_of_readFloat {kind : Option Kind} {literal : Text} {value : Value}
    (read : readFloat kind literal = .ok value) : value.kind ∈ [.float, .double] := by
  simp only [readFloat] at read
  split at read
  next => cases read
  next =>
    cases read
    split <;> simp [Value.kind]

theorem isExact_or_kind_of_readNumber {kind : Option Kind} {literal : Text} {value : Value}
    (read : readNumber kind literal = .ok value) :
    value.isExact = true ∨ value.kind ∈ [.float, .double] := by
  simp only [readNumber] at read
  split at read
  next =>
    split at read
    next => exact .inr (kind_of_readFloat read)
    next => exact .inl (isExact_of_readInteger read)
  next => exact .inr (kind_of_readFloat read)

/-- A value that is read is written without rounding, unless it is a floating point number. -/
theorem isExact_or_kind_of_decode {kind : Option Kind} {content : Text} {value : Value}
    (read : decode kind content = .ok value) :
    value.isExact = true ∨ value.kind ∈ [.float, .double] := by
  have reads := decode_eq_iff_reads.mp read
  generalize Text.strip content = literal at reads
  generalize result : Except.ok value = outcome at reads
  cases reads with
  | empty => cases result
  | null =>
      cases result
      exact .inl rfl
  | quoted body => exact .inl (isExact_of_readBody result.symm)
  | unterminated => cases result
  | number => exact isExact_or_kind_of_readNumber result.symm

/-- A value that has been read from any of its literals is read again from the one that is
written for it, unless it is a floating point number. -/
theorem decode_encode_of_decode {kind : Option Kind} {content : Text} {value : Value}
    (read : decode kind content = .ok value)
    (listed : value.kind ∈ [.null, .integer, .bytes, .dateTime, .time]) :
    ∃ literal, encode value = .ok literal ∧ decode (some value.kind) literal = .ok value := by
  have exact : value.isExact = true := by
    rcases isExact_or_kind_of_decode read with exact | floating
    · exact exact
    · generalize value.kind = kind at listed floating
      cases kind <;> simp at listed floating
  clear read listed
  cases value with
  | null => exact ⟨_, rfl, by decide⟩
  | integer wide => exact ⟨_, rfl, decode_integer rfl wide⟩
  | float number => cases exact
  | double number => cases exact
  | bytes octets => exact ⟨_, rfl, decode_ofOctets (.inl rfl) octets⟩
  | dateTime moment =>
      refine ⟨_, ofMoment_of_isStored exact, ?_⟩
      rw [decode_quote, Value.kind, readContent, readMoment_momentContent exact]
  | time span =>
      refine ⟨_, ofSpan_of_isNormal exact, ?_⟩
      rw [decode_quote, Value.kind, readContent, readSpan_spanContent exact]

/-- A negative span of more than a day, between double quotes and blanks and with short
fields. -/
theorem decode_encode_of_decode_span :
    ∃ span : TimeSpan, decode (some .time) (text " \"-27:4:5.5\" ") = .ok (.time span) ∧
      Kind.time ∈ [Kind.null, .integer, .bytes, .dateTime, .time] ∧
      ∃ literal, encode (.time span) = .ok literal ∧
        decode (some .time) literal = .ok (.time span) := by
  have read : decode (some .time) (text " \"-27:4:5.5\" ") =
      .ok (.time { negative := true, days := 1, hours := 3, minutes := 4, seconds := 5,
                   microseconds := 500000 }) := by
    decide +kernel
  exact ⟨_, read, by decide, decode_encode_of_decode read (by decide)⟩

end Literal

end SqlDump
