import SqlDump.Proofs.Client.Sent
import SqlDump.Proofs.Literal.Canonical

/-!
# Temporal columns as literals

What the server sends for a temporal column is read by its octets, every field in its full width.
Put between quotes it is a literal too, which is read as a text, with fields of any width and with
a look at the calendar. Both readings see the same fields.

Main statements: `momentFields_decode_octets` reads what is sent as a text, and
`decode_of_fields` compares the two readings of any octets.
-/

namespace SqlDump

/-! ## ASCII texts -/

theorem Utf8.decode_ascii_cons {octet : UInt8} (small : octet.toNat < 0x80) (rest : Octets) :
    decode (octet :: rest) = .char (Char.ofNat octet.toNat) :: decode rest := by
  simp [decode_cons, sequence, small]

/-- The octets of digits are read as these digits. -/
theorem Digit.decode_octets_append (found : List Digit) (rest : Octets) :
    Utf8.decode (octets found ++ rest) = text found ++ Utf8.decode rest := by
  have each : ∀ digit : Digit, digit.octet.toNat < 0x80 ∧
      Symbol.char (Char.ofNat digit.octet.toNat) = digit.symbol := by
    decide
  induction found with
  | nil => rfl
  | cons digit others hypothesis =>
      obtain ⟨small, same⟩ := each digit
      rw [octets_cons, List.cons_append, Utf8.decode_ascii_cons small, same, hypothesis, text_cons,
        List.cons_append]

namespace Client

open Literal

/-! ## What is sent as a text -/

theorem SentDate.decode_octets_append (sent : SentDate) (rest : Octets) :
    Utf8.decode (sent.octets ++ rest) =
      Digit.text sent.year.toList ++ .char '-' ::
        (Digit.text sent.month.toList ++ .char '-' ::
          (Digit.text sent.day.toList ++ Utf8.decode rest)) := by
  have dash (rest : Octets) : Utf8.decode (0x2D :: rest) = .char '-' :: Utf8.decode rest :=
    Utf8.decode_ascii_cons (by decide) rest
  rw [octets_append, Digit.decode_octets_append, dash, Digit.decode_octets_append, dash,
    Digit.decode_octets_append]

theorem SentClock.decode_fractionOctets (sent : SentClock) :
    Utf8.decode sent.fractionOctets = Digit.fractionText sent.fraction := by
  have point (rest : Octets) : Utf8.decode (0x2E :: rest) = .char '.' :: Utf8.decode rest :=
    Utf8.decode_ascii_cons (by decide) rest
  have digits : Utf8.decode (Digit.octets sent.fraction) = Digit.text sent.fraction := by
    simpa using Digit.decode_octets_append sent.fraction []
  by_cases whole : sent.fraction = []
  · simp [fractionOctets, Digit.fractionText, whole]
  · simp [fractionOctets, Digit.fractionText, whole, point, digits]

theorem SentClock.decode_octets (sent : SentClock) :
    Utf8.decode sent.octets =
      Digit.text sent.hour.toList ++ .char ':' ::
        (Digit.text sent.minute.toList ++ .char ':' ::
          (Digit.text sent.second.toList ++ Digit.fractionText sent.fraction)) := by
  have colon (rest : Octets) : Utf8.decode (0x3A :: rest) = .char ':' :: Utf8.decode rest :=
    Utf8.decode_ascii_cons (by decide) rest
  rw [octets_eq, Digit.decode_octets_append, colon, Digit.decode_octets_append, colon,
    Digit.decode_octets_append, decode_fractionOctets]

namespace Sent

variable {column : TemporalColumn}

theorem decode_octets_date (sent : SentDate) :
    Utf8.decode sent.octets =
      Digit.text sent.year.toList ++ .char '-' ::
        (Digit.text sent.month.toList ++ .char '-' :: Digit.text sent.day.toList) := by
  simpa using sent.decode_octets_append []

theorem decode_octets_moment (sent : SentDate) (clock : SentClock) :
    Utf8.decode (sent.octets ++ 0x20 :: clock.octets) =
      Digit.text sent.year.toList ++ .char '-' ::
        (Digit.text sent.month.toList ++ .char '-' ::
          (Digit.text sent.day.toList ++ .char ' ' ::
            (Digit.text clock.hour.toList ++ .char ':' ::
              (Digit.text clock.minute.toList ++ .char ':' ::
                (Digit.text clock.second.toList ++ Digit.fractionText clock.fraction))))) := by
  have space : Utf8.decode (0x20 :: clock.octets) = .char ' ' :: Utf8.decode clock.octets :=
    Utf8.decode_ascii_cons (by decide) _
  rw [sent.decode_octets_append, space, clock.decode_octets]

/-- What is sent is read as a text with the fields that are sent. -/
theorem momentFields_decode_octets (sent : Sent column) :
    momentFields (Utf8.decode sent.octets) = some sent.moment := by
  have date (sent : SentDate) :
      momentFields (Utf8.decode sent.octets) = some (.ofDate sent.date) := by
    have read := @dateFields_text sent.year.toList sent.month.toList sent.day.toList [] (by simp)
      (by simp) (by simp) (by simp)
    rw [List.append_nil] at read
    rw [decode_octets_date, momentFields, read]
    rfl
  have moment (sent : SentDate) (clock : SentClock) :
      momentFields (Utf8.decode (sent.octets ++ 0x20 :: clock.octets)) =
        some (clock.moment sent.date) := by
    rw [decode_octets_moment, momentFields_text (by simp) (by simp) (by simp) (by simp) (by simp)
      (by simp) clock.fraction_short]
    rfl
  cases sent with
  | date sent => exact date sent
  | dateTime sent clock | timestamp sent clock => exact moment sent clock

/-- What is sent has nothing to escape. -/
theorem escape_decode_octets (sent : Sent column) :
    escape (Utf8.decode sent.octets) = Utf8.decode sent.octets := by
  have digits (found : List Digit) : ∀ symbol ∈ Digit.text found, symbol ∉ escaped := by
    intro symbol member
    obtain ⟨digit, rfl⟩ := Digit.mem_text member
    exact symbol_not_mem_escaped digit
  have fraction (found : List Digit) : ∀ symbol ∈ Digit.fractionText found, symbol ∉ escaped := by
    rw [Digit.fractionText]
    split
    · simp
    · exact List.forall_mem_cons.mpr ⟨separator_not_mem_escaped (by simp), digits found⟩
  apply escape_eq_self
  cases sent with
  | date sent =>
      rw [octets, decode_octets_date]
      simp only [List.forall_mem_append, List.forall_mem_cons]
      refine ⟨digits _, ?_, digits _, ?_, digits _⟩
      all_goals exact separator_not_mem_escaped (by simp)
  | dateTime sent clock | timestamp sent clock =>
      rw [octets, decode_octets_moment]
      simp only [List.forall_mem_append, List.forall_mem_cons]
      refine ⟨digits _, ?_, digits _, ?_, digits _, ?_, digits _, ?_, digits _, ?_, digits _,
        fraction _⟩
      all_goals exact separator_not_mem_escaped (by simp)

end Sent

end Client

namespace Literal

/-! ## Two readings -/

/-- What the check of the reader means for a moment: its clock is that of a day, and its date is
real or has a zero among its parts. -/
theorem isStorable_iff {moment : Moment} :
    isStorable moment = true ↔
      moment.hour ≤ 23 ∧ moment.minute ≤ 59 ∧ moment.second ≤ 59 ∧
        (moment.date.isReal = true ∨
          (moment.year = 0 ∨ moment.month = 0 ∨ moment.day = 0) ∧ moment.month ≤ 12 ∧
            moment.day ≤ 31) := by
  have date : isStorableDate moment.date = true ↔
      moment.date.isReal = true ∨
        (moment.year = 0 ∨ moment.month = 0 ∨ moment.day = 0) ∧ moment.month ≤ 12 ∧
          moment.day ≤ 31 := by
    change (if moment.year = 0 ∨ moment.month = 0 ∨ moment.day = 0 then
      decide (moment.month ≤ 12) && decide (moment.day ≤ 31) else moment.date.isReal) = true ↔ _
    split
    next zero =>
      have unreal : ¬moment.date.isReal = true := fun real => by
        have bounds := Date.bounds_of_isReal real
        simp only [Moment.date] at bounds
        omega
      simp [unreal, zero]
    next nonzero => simp [nonzero]
  simp only [isStorable, Bool.and_eq_true, decide_eq_true_eq, date, and_assoc]

open Client.TemporalColumn in
/-- Octets that are read as those of a column are read as the same moment between quotes, if the
server stores it, and refused otherwise. -/
theorem decode_of_fields {octets : Octets} {moment : Moment}
    (read : fields? octets = some moment) :
    if moment.hour ≤ 23 ∧ moment.minute ≤ 59 ∧ moment.second ≤ 59 ∧
        (moment.date.isReal = true ∨
          (moment.year = 0 ∨ moment.month = 0 ∨ moment.day = 0) ∧ moment.month ≤ 12 ∧
            moment.day ≤ 31) then
      decode (some .dateTime)
          (.char '\'' :: Utf8.decode (trimBoth isBlankOctet octets) ++ [.char '\'']) =
        .ok (.dateTime moment)
    else
      ∃ error, decode (some .dateTime)
          (.char '\'' :: Utf8.decode (trimBoth isBlankOctet octets) ++ [.char '\'']) =
        .error error ∧ error.isRejection = true := by
  obtain ⟨column, sent, trimmed, rfl⟩ := exists_sent_of_fields? read
  have literal : .char '\'' :: Utf8.decode (trimBoth isBlankOctet octets) ++ [.char '\''] =
      quote (Utf8.decode sent.octets) := by
    rw [quote, sent.escape_decode_octets, trimmed]
  rw [literal, decode_quote, readContent, readMoment, sent.momentFields_decode_octets]
  simp only [← isStorable_iff]
  split
  next => rfl
  next => exact ⟨_, rfl, rfl⟩

/-- A moment in the month zero that is sent with blanks around it. -/
theorem decode_of_fields_zeroMonth :
    Client.TemporalColumn.fields? "\t2024-00-10 23:59:59.5 \n".toUTF8.toList =
        some { year := 2024, month := 0, day := 10, hour := 23, minute := 59, second := 59
               microsecond := 500000 } ∧
      decode (some .dateTime)
          (.char '\'' ::
            Utf8.decode (trimBoth isBlankOctet "\t2024-00-10 23:59:59.5 \n".toUTF8.toList) ++
              [.char '\'']) =
        .ok (.dateTime
          { year := 2024, month := 0, day := 10, hour := 23, minute := 59, second := 59
            microsecond := 500000 }) := by
  have read : Client.TemporalColumn.fields? "\t2024-00-10 23:59:59.5 \n".toUTF8.toList =
      some { year := 2024, month := 0, day := 10, hour := 23, minute := 59, second := 59
             microsecond := 500000 } := by
    decide +kernel
  have compared := decode_of_fields read
  rw [if_pos (by decide)] at compared
  exact ⟨read, compared⟩

end Literal

end SqlDump
