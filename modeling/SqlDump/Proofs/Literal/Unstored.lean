import SqlDump.Proofs.Literal.Canonical

/-!
# Moments that the server does not store

The writer checks no field: a moment with a negative year, a hundredth month or a seventh digit
behind its seconds is written too. A numeral with a dash is no field of digits, and one that
is too long for its field leaves digits where the reader looks for a separator. So a content is
read with the fields it was written with or not at all, and those of a moment that the server does
not store are refused behind their places.

Main statements: `eq_of_momentFields_momentContent` says what is read, and
`decode_encode_of_isStored_eq_false` what is refused.
-/

namespace SqlDump

namespace Literal

/-! ## Fields -/

/-- A field that is read where a padded numeral was written is all of that numeral. -/
theorem field_padded {least most width : Nat} {number : Int} {rest behind : Text}
    {found : List Digit} (nonempty : 1 ≤ least)
    (ends : ∀ symbol ∈ rest.head?, symbol.digit? = none)
    (read : field least most (Numeral.padded width number ++ rest) = some (found, behind)) :
    (Digit.value found : Int) = number ∧ width ≤ found.length ∧ behind = rest := by
  obtain ⟨run, enough, -⟩ := field_eq_some_iff.mp read
  rcases Numeral.padded_cases width number with ⟨others, written⟩ | ⟨digits, written, wide, value⟩
  · have dash := digit?_separator '-' (by simp)
    rw [written, List.cons_append, digitRun, dash] at run
    cases run
    simp at enough
    omega
  · rw [written, digitRun_text digits ends] at run
    cases run
    exact ⟨value, wide, rfl⟩

theorem dateFields_padded {date other : Date} {rest behind : Text}
    (ends : ∀ symbol ∈ rest.head?, symbol.digit? = none)
    (read : dateFields (Numeral.padded 4 date.year ++ .char '-' ::
        (Numeral.padded 2 date.month ++ .char '-' :: (Numeral.padded 2 date.day ++ rest))) =
      some (other, behind)) :
    other = date ∧ behind = rest := by
  have dash := digit?_separator '-' (by simp)
  simp only [dateFields] at read
  obtain ⟨⟨year, behindYear⟩, yearRead, read⟩ := Option.bind_eq_some_iff.mp read
  obtain ⟨yearValue, -, same⟩ := field_padded (by decide) (by simp [dash]) yearRead
  simp only [same, after_cons, Option.bind_eq_bind, Option.bind_some] at read
  obtain ⟨⟨month, behindMonth⟩, monthRead, read⟩ := Option.bind_eq_some_iff.mp read
  obtain ⟨monthValue, -, same⟩ := field_padded (by decide) (by simp [dash]) monthRead
  simp only [same, after_cons, Option.bind_some] at read
  obtain ⟨⟨day, behindDay⟩, dayRead, read⟩ := Option.bind_eq_some_iff.mp read
  obtain ⟨dayValue, -, same⟩ := field_padded (by decide) ends dayRead
  cases read
  rw [yearValue, monthValue, dayValue]
  exact ⟨rfl, same⟩

theorem endFraction_padded {number : Int} {fraction : List Digit}
    (read : endFraction (.char '.' :: Numeral.padded 6 number) = some fraction) :
    microseconds fraction = number := by
  have parted : isEnd (.char '.' :: Numeral.padded 6 number) = false := by
    simp [isEnd]
  have alone : Numeral.padded 6 number = Numeral.padded 6 number ++ [] :=
    (List.append_nil _).symm
  simp only [endFraction, parted, Bool.false_eq_true, if_false, after_cons, Option.bind_eq_bind,
    Option.bind_some] at read
  rw [alone] at read
  obtain ⟨⟨found, behind⟩, fieldRead, read⟩ := Option.bind_eq_some_iff.mp read
  obtain ⟨value, wide, rfl⟩ := field_padded (by decide) (by simp) fieldRead
  cases read
  have filled : 6 - found.length = 0 := by omega
  rw [microseconds, filled, Digit.zeros, List.replicate_zero, List.append_nil, value]

theorem endClock_padded {minute second microsecond : Int} {clock : Int × Int × Int}
    (read : endClock (Numeral.padded 2 minute ++ .char ':' ::
        (Numeral.padded 2 second ++ .char '.' :: Numeral.padded 6 microsecond)) = some clock) :
    clock = (minute, second, microsecond) := by
  have colon := digit?_separator ':' (by simp)
  have point := digit?_separator '.' (by simp)
  simp only [endClock] at read
  obtain ⟨⟨minutes, behindMinute⟩, minuteRead, read⟩ := Option.bind_eq_some_iff.mp read
  obtain ⟨minuteValue, -, same⟩ := field_padded (by decide) (by simp [colon]) minuteRead
  simp only [same, after_cons, Option.bind_eq_bind, Option.bind_some] at read
  obtain ⟨⟨seconds, behindSecond⟩, secondRead, read⟩ := Option.bind_eq_some_iff.mp read
  obtain ⟨secondValue, -, same⟩ := field_padded (by decide) (by simp [point]) secondRead
  simp only [same] at read
  obtain ⟨fraction, fractionRead, read⟩ := Option.bind_eq_some_iff.mp read
  cases read
  rw [minuteValue, secondValue, endFraction_padded fractionRead]

/-! ## Moments -/

/-- The fields that are read from the content of a moment are its own. -/
theorem eq_of_momentFields_momentContent {moment other : Moment}
    (read : momentFields (momentContent moment) = some other) : other = moment := by
  have space := digit?_separator ' ' (by simp)
  have colon := digit?_separator ':' (by simp)
  simp only [momentFields, momentContent] at read
  obtain ⟨⟨date, behindDate⟩, dateRead, read⟩ := Option.bind_eq_some_iff.mp read
  obtain ⟨sameDate, same⟩ := @dateFields_padded moment.date _ _ _ (by simp [space]) dateRead
  simp only [same, sameDate] at read
  split at read
  next atEnd => simp [isEnd] at atEnd
  next =>
    simp only [after_cons, Option.bind_eq_bind, Option.bind_some, Option.orElse_eq_orElse,
      Option.orElse_some] at read
    obtain ⟨⟨hour, behindHour⟩, hourRead, read⟩ := Option.bind_eq_some_iff.mp read
    obtain ⟨hourValue, -, same⟩ := field_padded (by decide) (by simp [colon]) hourRead
    simp only [same, after_cons, Option.bind_some] at read
    obtain ⟨clock, clockRead, read⟩ := Option.bind_eq_some_iff.mp read
    rw [endClock_padded clockRead] at read
    cases read
    rw [hourValue]
    rfl

/-- A moment that is read from the content of another one is that one, and the server stores
it. -/
theorem eq_of_readMoment_momentContent {moment other : Moment}
    (read : readMoment (momentContent moment) = .ok other) :
    other = moment ∧ moment.isStored = true := by
  have stored := isStored_of_readMoment read
  simp only [readMoment] at read
  split at read
  next => cases read
  next found fieldsRead =>
    have same := eq_of_momentFields_momentContent fieldsRead
    split at read
    next =>
      cases read
      exact ⟨same, same ▸ stored⟩
    next => cases read

/-- What is no moment is refused for its form or its range. -/
theorem isRejection_of_readMoment {content : Text} {error : TemporalError}
    (read : readMoment content = .error error) :
    (LiteralError.temporal error).isRejection = true := by
  simp only [readMoment] at read
  split at read
  next =>
    cases read
    rfl
  next =>
    split at read
    next => cases read
    next =>
      cases read
      rfl

/-- The literal of a moment that the server does not store is refused, whatever its fields
are. -/
theorem decode_encode_of_isStored_eq_false {moment : Moment}
    (short : ∀ field ∈ moment.fields, (digits field.natAbs).length ≤ Numeral.limit)
    (unstored : moment.isStored = false) :
    ∃ literal error, encode (.dateTime moment) = .ok literal ∧
      decode (some .dateTime) literal = .error error ∧ error.isRejection = true := by
  have refused := decode_quote (some .dateTime) (momentContent moment)
  cases read : readMoment (momentContent moment) with
  | ok other =>
      have stored := (eq_of_readMoment_momentContent read).2
      rw [unstored] at stored
      cases stored
  | error error =>
      simp only [readContent, read] at refused
      exact ⟨_, _, ofMoment_of_le short, refused, isRejection_of_readMoment read⟩

/-- The 29th of February 2024 with a digit too many in front and another one behind. -/
theorem decode_encode_of_isStored_eq_false_shifted :
    (∀ field ∈ ({ year := 12024, month := 2, day := 29, microsecond := 1000000 } : Moment).fields,
        (digits field.natAbs).length ≤ Numeral.limit) ∧
      ({ year := 12024, month := 2, day := 29, microsecond := 1000000 } : Moment).isStored =
        false ∧
      ∃ literal error,
        encode (.dateTime { year := 12024, month := 2, day := 29, microsecond := 1000000 }) =
            .ok literal ∧
          decode (some .dateTime) literal = .error error ∧ error.isRejection = true := by
  have short : ∀ field ∈
      ({ year := 12024, month := 2, day := 29, microsecond := 1000000 } : Moment).fields,
      (digits field.natAbs).length ≤ Numeral.limit := by
    decide +kernel
  exact ⟨short, by decide, decode_encode_of_isStored_eq_false short (by decide)⟩

end Literal

end SqlDump
