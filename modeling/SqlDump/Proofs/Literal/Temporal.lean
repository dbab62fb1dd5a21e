import SqlDump.Proofs.Literal.Escape
import SqlDump.Proofs.Results

/-!
# Writing and reading moments and time spans

The content of a literal is made of padded fields and separators. A field reads
back as the digits it was written with, because a separator follows it or the
content ends.

Main statements: `readMoment_momentContent` and `readSpan_spanContent` read back
the content of a moment that the server stores and of a time span in normal form.
-/

namespace SqlDump

/-- Whether the server stores a moment: its clock is that of a day, and its date
is real or has a zero among its parts. -/
def Moment.isStored (moment : Moment) : Bool :=
  0 ≤ moment.year && moment.year ≤ 9999 && moment.hasClock &&
    (moment.date.isReal ||
      (moment.year = 0 || moment.month = 0 || moment.day = 0) &&
        0 ≤ moment.month && moment.month ≤ 12 && 0 ≤ moment.day && moment.day ≤ 31)

/-- Whether the fields of a time span below its days are those of a day, and its
hours can be converted to a numeral and back. -/
def TimeSpan.isNormal (span : TimeSpan) : Bool :=
  0 ≤ span.days && 0 ≤ span.hours && span.hours ≤ 23 && 0 ≤ span.minutes && span.minutes ≤ 59 &&
    0 ≤ span.seconds && span.seconds ≤ 59 &&
    0 ≤ span.microseconds && span.microseconds ≤ 999999 &&
    (digits span.totalHours.natAbs).length ≤ Numeral.limit

/-- No month is longer than 31 days. -/
theorem Calendar.monthLength_le (year month : Int) : monthLength year month ≤ 31 := by
  have each : ∀ length ∈ monthLengths year, length ≤ 31 := by
    cases leap : isLeap year <;> simp [monthLengths, leap]
  simp only [monthLength]
  split
  next =>
    cases found : (monthLengths year)[(month - 1).toNat]? with
    | none => simp
    | some length => exact each length (List.mem_of_getElem? found)
  next => decide

theorem Date.bounds_of_isReal {date : Date} (real : date.isReal = true) :
    1 ≤ date.year ∧ (1 ≤ date.month ∧ date.month ≤ 12) ∧ (1 ≤ date.day ∧ date.day ≤ 31) := by
  have longest := Calendar.monthLength_le date.year date.month
  simp only [isReal, Bool.and_eq_true, decide_eq_true_eq] at real
  simp only [Calendar.firstYear] at real
  omega

theorem Moment.bounds_of_isStored {moment : Moment} (stored : moment.isStored = true) :
    (0 ≤ moment.year ∧ moment.year < 10000) ∧ (0 ≤ moment.month ∧ moment.month ≤ 12) ∧
      (0 ≤ moment.day ∧ moment.day ≤ 31) ∧ (0 ≤ moment.hour ∧ moment.hour ≤ 23) ∧
      (0 ≤ moment.minute ∧ moment.minute ≤ 59) ∧ (0 ≤ moment.second ∧ moment.second ≤ 59) ∧
      (0 ≤ moment.microsecond ∧ moment.microsecond < 1000000) := by
  simp only [isStored, hasClock, Bool.and_eq_true, Bool.or_eq_true, decide_eq_true_eq] at stored
  obtain ⟨_, real | _⟩ := stored
  · have bounds := Date.bounds_of_isReal real
    simp only [date] at bounds
    omega
  · omega

theorem TimeSpan.bounds_of_isNormal {span : TimeSpan} (normal : span.isNormal = true) :
    0 ≤ span.days ∧ (0 ≤ span.hours ∧ span.hours ≤ 23) ∧
      (0 ≤ span.minutes ∧ span.minutes ≤ 59) ∧ (0 ≤ span.seconds ∧ span.seconds ≤ 59) ∧
      (0 ≤ span.microseconds ∧ span.microseconds < 1000000) ∧
      (digits span.totalHours.natAbs).length ≤ Numeral.limit := by
  simp only [isNormal, Bool.and_eq_true, decide_eq_true_eq] at normal
  obtain ⟨inRange, short⟩ := normal
  refine ⟨?_, ?_, ?_, ?_, ?_, short⟩ <;> omega

namespace Literal

/-- The date of a stored moment is one that the server stores. -/
theorem isStorableDate_of_isStored {moment : Moment} (stored : moment.isStored = true) :
    isStorableDate moment.date = true := by
  simp only [Moment.isStored, Bool.and_eq_true, Bool.or_eq_true, decide_eq_true_eq] at stored
  obtain ⟨-, real | ⟨⟨⟨⟨zero, -⟩, month⟩, -⟩, day⟩⟩ := stored
  · have bounds := Date.bounds_of_isReal real
    rw [isStorableDate, if_neg (by omega)]
    exact real
  · have zeroPart : moment.date.year = 0 ∨ moment.date.month = 0 ∨ moment.date.day = 0 := by
      simpa [Moment.date, or_assoc] using zero
    rw [isStorableDate, if_pos zeroPart]
    simp [Moment.date, month, day]

/-! ## Contents -/

/-- What stands between the quotes of a moment's literal. -/
def momentContent (moment : Moment) : Text :=
  Numeral.padded 4 moment.year ++ .char '-' :: (Numeral.padded 2 moment.month ++
    .char '-' :: (Numeral.padded 2 moment.day ++ .char ' ' :: (Numeral.padded 2 moment.hour ++
      .char ':' :: (Numeral.padded 2 moment.minute ++ .char ':' ::
        (Numeral.padded 2 moment.second ++ .char '.' :: Numeral.padded 6 moment.microsecond)))))

/-- What stands between the quotes of a time span's literal. -/
def spanContent (span : TimeSpan) : Text :=
  (if span.negative then [.char '-'] else []) ++ (Numeral.plain span.totalHours ++
    .char ':' :: (Numeral.padded 2 span.minutes ++ .char ':' ::
      (Numeral.padded 2 span.seconds ++ .char '.' :: Numeral.padded 6 span.microseconds)))

theorem padded_not_mem_escaped (width : Nat) (number : Int) :
    ∀ symbol ∈ Numeral.padded width number, symbol ∉ escaped := by
  intro symbol member
  rcases Numeral.mem_padded member with rfl | ⟨digit, rfl⟩
  · decide
  · exact symbol_not_mem_escaped digit

theorem plain_not_mem_escaped (number : Int) :
    ∀ symbol ∈ Numeral.plain number, symbol ∉ escaped := by
  intro symbol member
  rcases Numeral.mem_plain member with rfl | ⟨digit, rfl⟩
  · decide
  · exact symbol_not_mem_escaped digit

/-- No separator is escaped. -/
theorem separator_not_mem_escaped {separator : Char} (listed : separator ∈ ['-', ' ', ':', '.']) :
    Symbol.char separator ∉ escaped := by
  simp only [List.mem_cons, List.not_mem_nil, or_false] at listed
  rcases listed with rfl | rfl | rfl | rfl <;> decide

/-- The content of a moment is written without escapes. -/
@[simp] theorem escape_momentContent (moment : Moment) :
    escape (momentContent moment) = momentContent moment := by
  apply escape_eq_self
  simp only [momentContent, List.forall_mem_append, List.forall_mem_cons]
  refine ⟨padded_not_mem_escaped 4 _, ?_, padded_not_mem_escaped 2 _, ?_,
    padded_not_mem_escaped 2 _, ?_, padded_not_mem_escaped 2 _, ?_, padded_not_mem_escaped 2 _, ?_,
    padded_not_mem_escaped 2 _, ?_, padded_not_mem_escaped 6 _⟩
  all_goals exact separator_not_mem_escaped (by simp)

/-- The content of a time span is written without escapes. -/
@[simp] theorem escape_spanContent (span : TimeSpan) :
    escape (spanContent span) = spanContent span := by
  apply escape_eq_self
  simp only [spanContent, List.forall_mem_append, List.forall_mem_cons]
  refine ⟨?_, plain_not_mem_escaped _, ?_, padded_not_mem_escaped 2 _, ?_,
    padded_not_mem_escaped 2 _, ?_, padded_not_mem_escaped 6 _⟩
  · cases span.negative <;> simp [separator_not_mem_escaped]
  all_goals exact separator_not_mem_escaped (by simp)

theorem ofMoment_eq_ok {moment : Moment} {literal : Text} (made : ofMoment moment = .ok literal) :
    literal = quote (momentContent moment) := by
  simp only [ofMoment] at made
  obtain ⟨year, yearMade, made⟩ := bind_eq_ok_iff.mp made
  obtain ⟨month, monthMade, made⟩ := bind_eq_ok_iff.mp made
  obtain ⟨day, dayMade, made⟩ := bind_eq_ok_iff.mp made
  obtain ⟨hour, hourMade, made⟩ := bind_eq_ok_iff.mp made
  obtain ⟨minute, minuteMade, made⟩ := bind_eq_ok_iff.mp made
  obtain ⟨second, secondMade, made⟩ := bind_eq_ok_iff.mp made
  obtain ⟨microsecond, microsecondMade, made⟩ := bind_eq_ok_iff.mp made
  cases made
  rw [Numeral.ofIntPadded_eq_ok yearMade, Numeral.ofIntPadded_eq_ok monthMade,
    Numeral.ofIntPadded_eq_ok dayMade, Numeral.ofIntPadded_eq_ok hourMade,
    Numeral.ofIntPadded_eq_ok minuteMade, Numeral.ofIntPadded_eq_ok secondMade,
    Numeral.ofIntPadded_eq_ok microsecondMade]
  rw [quote, escape_momentContent]
  simp [momentContent, text]

theorem ofSpan_eq_ok {span : TimeSpan} {literal : Text} (made : ofSpan span = .ok literal) :
    literal = quote (spanContent span) := by
  simp only [ofSpan] at made
  obtain ⟨hours, hoursMade, made⟩ := bind_eq_ok_iff.mp made
  obtain ⟨minutes, minutesMade, made⟩ := bind_eq_ok_iff.mp made
  obtain ⟨seconds, secondsMade, made⟩ := bind_eq_ok_iff.mp made
  obtain ⟨microseconds, microsecondsMade, made⟩ := bind_eq_ok_iff.mp made
  cases made
  rw [Numeral.ofInt_eq_ok hoursMade, Numeral.ofIntPadded_eq_ok minutesMade,
    Numeral.ofIntPadded_eq_ok secondsMade, Numeral.ofIntPadded_eq_ok microsecondsMade]
  rw [quote, escape_spanContent]
  cases negative : span.negative <;> simp [spanContent, text, negative]

/-! ## Fields -/

/-- No separator is a digit. -/
theorem digit?_separator (separator : Char) (listed : separator ∈ ['-', ' ', ':', '.']) :
    (Symbol.char separator).digit? = none := by
  simp only [List.mem_cons, List.not_mem_nil, or_false] at listed
  rcases listed with rfl | rfl | rfl | rfl <;> decide

@[simp] theorem after_cons (separator : Char) (rest : Text) :
    after separator (.char separator :: rest) = some rest := by
  simp [after]

/-- A field in front of a symbol that is no digit is read as the digits it was
written with. -/
theorem field_text {least most : Nat} {found : List Digit} {rest : Text}
    (ends : ∀ symbol ∈ rest.head?, symbol.digit? = none) (enough : least ≤ found.length)
    (few : found.length ≤ most) :
    field least most (Digit.text found ++ rest) = some (found, rest) := by
  simp [field, digitRun_text found ends, enough, few]

theorem endFraction_text {fraction : List Digit} (few : fraction.length ≤ 6) :
    endFraction (Digit.fractionText fraction) = some fraction := by
  by_cases whole : fraction = []
  · rw [whole]
    rfl
  · have read : field 1 6 (Digit.text fraction ++ []) = some (fraction, []) :=
      field_text (by simp) (List.length_pos_iff.mpr whole) few
    rw [List.append_nil] at read
    simp [Digit.fractionText_of_ne_nil whole, endFraction, isEnd, read]

/-- Microseconds in their full width are not filled up. -/
theorem microseconds_of_length {fraction : List Digit} (full : fraction.length = 6) :
    microseconds fraction = Digit.value fraction := by
  simp [microseconds, full, Digit.zeros]

/-- A clock at the end of a content reads back. -/
theorem endClock_text {minute second fraction : List Digit} (minuteLength : minute.length = 2)
    (secondLength : second.length = 2) (few : fraction.length ≤ 6) :
    endClock (Digit.text minute ++ .char ':' ::
        (Digit.text second ++ Digit.fractionText fraction)) =
      some ((Digit.value minute : Int), (Digit.value second : Int), microseconds fraction) := by
  have colon := digit?_separator ':' (by simp)
  have minuteRead : field 1 2 (Digit.text minute ++ .char ':' ::
      (Digit.text second ++ Digit.fractionText fraction)) = some (minute, _) :=
    field_text (by simp [colon]) (by omega) (by omega)
  have secondRead : field 1 2 (Digit.text second ++ Digit.fractionText fraction) =
      some (second, _) :=
    field_text (Digit.digit?_head?_fractionText fraction) (by omega) (by omega)
  simp [endClock, minuteRead, secondRead, endFraction_text few]

/-! ## Moments -/

/-- A date in front of something else than a digit reads back. -/
theorem dateFields_text {year month day : List Digit} {rest : Text} (yearLength : year.length = 4)
    (monthLength : month.length = 2) (dayLength : day.length = 2)
    (ends : ∀ symbol ∈ rest.head?, symbol.digit? = none) :
    dateFields (Digit.text year ++ .char '-' ::
        (Digit.text month ++ .char '-' :: (Digit.text day ++ rest))) =
      some ({ year := Digit.value year, month := Digit.value month, day := Digit.value day },
        rest) := by
  have dash := digit?_separator '-' (by simp)
  have dayRead : field 1 2 (Digit.text day ++ rest) = some (day, _) :=
    field_text ends (by omega) (by omega)
  generalize Digit.text day ++ rest = fromDay at dayRead ⊢
  have monthRead : field 1 2 (Digit.text month ++ .char '-' :: fromDay) = some (month, _) :=
    field_text (by simp [dash]) (by omega) (by omega)
  generalize Digit.text month ++ _ = fromMonth at monthRead ⊢
  have yearRead : field 4 4 (Digit.text year ++ .char '-' :: fromMonth) = some (year, _) :=
    field_text (by simp [dash]) (by omega) (by omega)
  simp [dateFields, yearRead, monthRead, dayRead]

/-- A date and a clock read back. -/
theorem momentFields_text {year month day hour minute second fraction : List Digit}
    (yearLength : year.length = 4) (monthLength : month.length = 2) (dayLength : day.length = 2)
    (hourLength : hour.length = 2) (minuteLength : minute.length = 2)
    (secondLength : second.length = 2) (few : fraction.length ≤ 6) :
    momentFields (Digit.text year ++ .char '-' :: (Digit.text month ++ .char '-' ::
        (Digit.text day ++ .char ' ' :: (Digit.text hour ++ .char ':' :: (Digit.text minute ++
          .char ':' :: (Digit.text second ++ Digit.fractionText fraction)))))) =
      some
        { year := Digit.value year, month := Digit.value month, day := Digit.value day
          hour := Digit.value hour, minute := Digit.value minute, second := Digit.value second
          microsecond := microseconds fraction } := by
  have space := digit?_separator ' ' (by simp)
  have colon := digit?_separator ':' (by simp)
  have clockRead := endClock_text minuteLength secondLength few
  generalize Digit.text minute ++ _ = clock at clockRead ⊢
  have hourRead : field 1 2 (Digit.text hour ++ .char ':' :: clock) = some (hour, _) :=
    field_text (by simp [colon]) (by omega) (by omega)
  generalize Digit.text hour ++ _ = wall at hourRead ⊢
  have behindDate : ∀ symbol ∈ (Symbol.char ' ' :: wall).head?, symbol.digit? = none := by
    simp [space]
  simp [momentFields, dateFields_text yearLength monthLength dayLength behindDate, isEnd, hourRead,
    clockRead, Moment.ofDate]

/-- The fields of a moment whose numbers fit their places read back. -/
theorem momentFields_momentContent {moment : Moment}
    (year : 0 ≤ moment.year ∧ moment.year < 10000) (month : 0 ≤ moment.month ∧ moment.month < 100)
    (day : 0 ≤ moment.day ∧ moment.day < 100) (hour : 0 ≤ moment.hour ∧ moment.hour < 100)
    (minute : 0 ≤ moment.minute ∧ moment.minute < 100)
    (second : 0 ≤ moment.second ∧ moment.second < 100)
    (microsecond : 0 ≤ moment.microsecond ∧ moment.microsecond < 1000000) :
    momentFields (momentContent moment) = some moment := by
  obtain ⟨years, yearWritten, yearLength, yearValue⟩ :=
    Numeral.exists_digits_padded 3 year.1 year.2
  obtain ⟨months, monthWritten, monthLength, monthValue⟩ :=
    Numeral.exists_digits_padded 1 month.1 month.2
  obtain ⟨days, dayWritten, dayLength, dayValue⟩ :=
    Numeral.exists_digits_padded 1 day.1 day.2
  obtain ⟨hours, hourWritten, hourLength, hourValue⟩ :=
    Numeral.exists_digits_padded 1 hour.1 hour.2
  obtain ⟨minutes, minuteWritten, minuteLength, minuteValue⟩ :=
    Numeral.exists_digits_padded 1 minute.1 minute.2
  obtain ⟨seconds, secondWritten, secondLength, secondValue⟩ :=
    Numeral.exists_digits_padded 1 second.1 second.2
  obtain ⟨fraction, fractionWritten, fractionLength, fractionValue⟩ :=
    Numeral.exists_digits_padded 5 microsecond.1 microsecond.2
  have parted : fraction ≠ [] := List.ne_nil_of_length_pos (by omega)
  rw [momentContent, yearWritten, monthWritten, dayWritten, hourWritten, minuteWritten,
    secondWritten, fractionWritten, ← Digit.fractionText_of_ne_nil parted,
    momentFields_text yearLength monthLength dayLength hourLength minuteLength secondLength
      fractionLength.le,
    microseconds_of_length fractionLength, yearValue, monthValue, dayValue, hourValue, minuteValue,
    secondValue, fractionValue]

/-- The content of a stored moment reads back. -/
theorem readMoment_momentContent {moment : Moment} (stored : moment.isStored = true) :
    readMoment (momentContent moment) = .ok moment := by
  obtain ⟨year, month, day, hour, minute, second, microsecond⟩ := Moment.bounds_of_isStored stored
  have fieldsRead := momentFields_momentContent year ⟨month.1, by omega⟩ ⟨day.1, by omega⟩
    ⟨hour.1, by omega⟩ ⟨minute.1, by omega⟩ ⟨second.1, by omega⟩ microsecond
  have storable : isStorable moment = true := by
    simp [isStorable, isStorableDate_of_isStored stored, hour.2, minute.2, second.2]
  rw [readMoment, fieldsRead]
  simp [storable]

/-- A moment whose fields are within the limit of numerals has a literal. -/
theorem ofMoment_of_le {moment : Moment}
    (short : ∀ field ∈ moment.fields, (digits field.natAbs).length ≤ Numeral.limit) :
    ofMoment moment = .ok (quote (momentContent moment)) := by
  simp only [Moment.fields, List.forall_mem_cons] at short
  obtain ⟨year, month, day, hour, minute, second, microsecond, -⟩ := short
  simp only [ofMoment]
  rw [Numeral.ofIntPadded_of_le year, Numeral.ofIntPadded_of_le month,
    Numeral.ofIntPadded_of_le day, Numeral.ofIntPadded_of_le hour,
    Numeral.ofIntPadded_of_le minute, Numeral.ofIntPadded_of_le second,
    Numeral.ofIntPadded_of_le microsecond]
  rw [quote, escape_momentContent]
  simp [bind, Except.bind, pure, Except.pure, momentContent, text]

/-- A stored moment has a literal. -/
theorem ofMoment_of_isStored {moment : Moment} (stored : moment.isStored = true) :
    ofMoment moment = .ok (quote (momentContent moment)) := by
  obtain ⟨year, month, day, hour, minute, second, microsecond⟩ := Moment.bounds_of_isStored stored
  apply ofMoment_of_le
  simp only [Moment.fields, List.forall_mem_cons]
  refine ⟨?_, ?_, ?_, ?_, ?_, ?_, ?_, by simp⟩
  all_goals exact Numeral.length_digits_le_limit (by omega)

/-! ## Time spans -/

/-- The fields of a time span whose numbers fit their places read back. -/
theorem spanFields_spanContent {span : TimeSpan} (hours : 0 ≤ span.totalHours)
    (minutes : 0 ≤ span.minutes ∧ span.minutes < 100)
    (seconds : 0 ≤ span.seconds ∧ span.seconds < 100)
    (microseconds : 0 ≤ span.microseconds ∧ span.microseconds < 1000000) :
    spanFields (spanContent span) =
      some (span.negative, digits span.totalHours.natAbs, span.minutes, span.seconds,
        span.microseconds) := by
  obtain ⟨minute, minuteWritten, minuteLength, minuteValue⟩ :=
    Numeral.exists_digits_padded 1 minutes.1 minutes.2
  obtain ⟨second, secondWritten, secondLength, secondValue⟩ :=
    Numeral.exists_digits_padded 1 seconds.1 seconds.2
  obtain ⟨fraction, fractionWritten, fractionLength, fractionValue⟩ :=
    Numeral.exists_digits_padded 5 microseconds.1 microseconds.2
  have colon := digit?_separator ':' (by simp)
  have parted : fraction ≠ [] := List.ne_nil_of_length_pos (by omega)
  rw [spanContent, Numeral.plain_of_nonneg hours, minuteWritten, secondWritten, fractionWritten,
    ← Digit.fractionText_of_ne_nil parted]
  have clockRead := endClock_text minuteLength secondLength fractionLength.le
  rw [microseconds_of_length fractionLength] at clockRead
  generalize Digit.text minute ++ _ = clock at clockRead ⊢
  have hoursRead : digitRun Symbol.digit? (Digit.text (digits span.totalHours.natAbs) ++
      .char ':' :: clock) = (digits span.totalHours.natAbs, .char ':' :: clock) :=
    digitRun_text _ (by simp [colon])
  have unsigned : ∀ rest, Digit.text (digits span.totalHours.natAbs) ++ .char ':' :: clock ≠
      .char '-' :: rest :=
    Digit.text_append_ne_cons (digits_ne_nil _) (digit?_separator '-' (by simp)) _
  have digitsNonempty : digits span.totalHours.natAbs ≠ [] := digits_ne_nil _
  generalize Digit.text (digits span.totalHours.natAbs) ++ _ = body at hoursRead unsigned ⊢
  cases negative : span.negative with
  | true =>
      simp [spanFields, hoursRead, clockRead, minuteValue, secondValue, fractionValue]
  | false =>
      simp only [Bool.false_eq_true, if_false, List.nil_append, spanFields]
      rw [hoursRead]
      cases found : digits span.totalHours.natAbs with
      | nil => exact absurd found digitsNonempty
      | cons first others =>
          simp [clockRead, minuteValue, secondValue, fractionValue]

/-- The content of a span in normal form reads back. -/
theorem readSpan_spanContent {span : TimeSpan} (normal : span.isNormal = true) :
    readSpan (spanContent span) = .ok span := by
  obtain ⟨days, hours, minutes, seconds, microseconds, short⟩ := TimeSpan.bounds_of_isNormal normal
  have total : 0 ≤ span.totalHours := by
    simp only [TimeSpan.totalHours]
    omega
  have fieldsRead := spanFields_spanContent total ⟨minutes.1, by omega⟩ ⟨seconds.1, by omega⟩
    microseconds
  have clockInRange : ¬(59 < span.minutes ∨ 59 < span.seconds) := by omega
  -- The hours of a day are fewer than 24, so the fold of the days into them comes apart.
  have folded : (span.totalHours.natAbs : Int) / 24 = span.days ∧
      (span.totalHours.natAbs : Int) % 24 = span.hours := by
    simp only [TimeSpan.totalHours] at total ⊢
    omega
  rw [readSpan, fieldsRead]
  simp only [clockInRange, if_false, Nat.not_lt.mpr short, Digit.value_digits, folded.1, folded.2]

/-- A span in normal form has a literal. -/
theorem ofSpan_of_isNormal {span : TimeSpan} (normal : span.isNormal = true) :
    ofSpan span = .ok (quote (spanContent span)) := by
  obtain ⟨_, _, minutes, seconds, microseconds, short⟩ := TimeSpan.bounds_of_isNormal normal
  simp only [ofSpan]
  rw [Numeral.ofInt_of_le short, Numeral.ofIntPadded_of_lt minutes.1 (by omega),
    Numeral.ofIntPadded_of_lt seconds.1 (by omega),
    Numeral.ofIntPadded_of_lt microseconds.1 microseconds.2]
  rw [quote, escape_spanContent]
  cases negative : span.negative <;>
    simp [bind, Except.bind, pure, Except.pure, spanContent, text, negative]

end Literal

end SqlDump
