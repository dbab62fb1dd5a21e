import SqlDump.Literal.Row
import SqlDump.Proofs.Literal.RoundTrip

/-!
# Durations in literals

A duration lets its days alone carry the sign, and a time span has a sign of its own and the
fields of a size. The size of a duration is the duration itself or its opposite, which is a
duration again: the fewest days a duration can have are as far from zero as the most days. So a
span is made of the fields of its size, and its literal has hours that can be written and read.

Main statements: `Duration.exists_size`, `TimeSpan.toDuration_ofDuration` and
`ofRaw_duration_exact`.
-/

namespace SqlDump

namespace Duration

/-- The bounds that the normal form gives. -/
theorem bounds_of_isNormal {duration : Duration} (normal : duration.isNormal = true) :
    (-999999999 ≤ duration.days ∧ duration.days ≤ 999999999) ∧
      (0 ≤ duration.seconds ∧ duration.seconds < 86400) ∧
      (0 ≤ duration.microseconds ∧ duration.microseconds < 1000000) := by
  simp only [isNormal, Bool.and_eq_true, decide_eq_true_eq] at normal
  simp only [mostDays] at normal
  omega

/-- A duration in normal form is the one that its microseconds make. -/
theorem ofTotal_total {duration : Duration} (normal : duration.isNormal = true) :
    ofTotal duration.total = .ok duration := by
  obtain ⟨days, seconds, microseconds⟩ := bounds_of_isNormal normal
  have inDay : duration.total / microsecondsPerDay = duration.days := by
    simp only [total, microsecondsPerDay]
    omega
  have rest : duration.total % microsecondsPerDay =
      duration.seconds * 1000000 + duration.microseconds := by
    simp only [total, microsecondsPerDay]
    omega
  have narrow : ¬(duration.days < -0x80000000 ∨ 0x7FFFFFFF < duration.days) := by omega
  have few : ¬(duration.days < -mostDays ∨ mostDays < duration.days) := by
    simp only [mostDays]
    omega
  have back : (duration.seconds * 1000000 + duration.microseconds) / 1000000 = duration.seconds ∧
      (duration.seconds * 1000000 + duration.microseconds) % 1000000 = duration.microseconds := by
    omega
  simp only [ofTotal, inDay, rest, narrow, few, back, if_false]

/-- Microseconds of few enough days make a duration in normal form. -/
theorem exists_ofTotal {count : Int} (low : -mostDays * microsecondsPerDay ≤ count)
    (high : count < (mostDays + 1) * microsecondsPerDay) :
    ∃ duration, ofTotal count = .ok duration ∧ duration.isNormal = true ∧
      duration.total = count := by
  simp only [mostDays, microsecondsPerDay] at low high
  obtain ⟨duration, fields⟩ : ∃ duration : Duration, duration =
      { days := count / microsecondsPerDay
        seconds := count % microsecondsPerDay / 1000000
        microseconds := count % microsecondsPerDay % 1000000 } := ⟨_, rfl⟩
  have same : duration.total = count := by
    simp only [fields, total, microsecondsPerDay]
    omega
  have normal : duration.isNormal = true := by
    simp only [isNormal, Bool.and_eq_true, decide_eq_true_eq]
    simp only [fields, mostDays, microsecondsPerDay]
    omega
  exact ⟨duration, same ▸ ofTotal_total normal, normal, same⟩

/-- The size of a duration: a duration in normal form, the same or the opposite. -/
theorem exists_size {duration : Duration} (normal : duration.isNormal = true) :
    ∃ size, (if duration.total < 0 then duration.negate else .ok duration) = .ok size ∧
      size.isNormal = true ∧ size.total = duration.total.natAbs := by
  split
  next negative =>
    obtain ⟨days, seconds, microseconds⟩ := bounds_of_isNormal normal
    have low : -mostDays * microsecondsPerDay ≤ -duration.total := by
      simp only [mostDays, microsecondsPerDay] at negative ⊢
      omega
    have high : -duration.total < (mostDays + 1) * microsecondsPerDay := by
      simp only [mostDays, total, microsecondsPerDay]
      omega
    obtain ⟨size, made, sizeNormal, sizeTotal⟩ := exists_ofTotal low high
    exact ⟨size, made, sizeNormal, by omega⟩
  next notNegative => exact ⟨duration, rfl, normal, by omega⟩

end Duration

namespace TimeSpan

theorem magnitude_ofSeconds (negative : Bool) (days seconds microseconds : Int) :
    (ofSeconds negative days seconds microseconds).magnitude =
      { days, seconds, microseconds : Duration }.total := by
  simp only [magnitude, ofSeconds, Duration.total, Duration.microsecondsPerDay]
  omega

/-- A span has the fields of the size of its duration. -/
theorem ofDuration_eq_ofSeconds {duration size : Duration} (normal : size.isNormal = true)
    (same : size.total = duration.total.natAbs) :
    ofDuration duration =
      ofSeconds (duration.total < 0) size.days size.seconds size.microseconds := by
  obtain ⟨days, seconds, microseconds⟩ := Duration.bounds_of_isNormal normal
  have inDay : size.total / Duration.microsecondsPerDay = size.days := by
    simp only [Duration.total, Duration.microsecondsPerDay]
    omega
  have rest : size.total % Duration.microsecondsPerDay =
      size.seconds * 1000000 + size.microseconds := by
    simp only [Duration.total, Duration.microsecondsPerDay]
    omega
  have back : (size.seconds * 1000000 + size.microseconds) / 1000000 = size.seconds ∧
      (size.seconds * 1000000 + size.microseconds) % 1000000 = size.microseconds := by
    omega
  simp only [ofDuration, ← same, inDay, rest, back]

/-- The span of a duration stands for it. -/
theorem toDuration_ofDuration {duration : Duration} (normal : duration.isNormal = true) :
    (ofDuration duration).toDuration = .ok duration := by
  obtain ⟨size, made, sizeNormal, same⟩ := Duration.exists_size normal
  have sizeMade : Duration.ofTotal size.total = .ok size := Duration.ofTotal_total sizeNormal
  rw [ofDuration_eq_ofSeconds sizeNormal same, toDuration, magnitude_ofSeconds, sizeMade]
  simp only [ofSeconds, decide_eq_true_eq]
  split at made
  next negative =>
    have opposite : -size.total = duration.total := by omega
    rw [if_pos negative, Duration.negate, opposite, Duration.ofTotal_total normal]
  next notNegative =>
    rw [if_neg notNegative]
    exact made.symm

/-- The span of a duration is in normal form, and has as many days as its size. -/
theorem isNormal_ofDuration {duration : Duration} (normal : duration.isNormal = true) :
    (ofDuration duration).isNormal = true := by
  obtain ⟨size, -, sizeNormal, same⟩ := Duration.exists_size normal
  obtain ⟨days, seconds, microseconds⟩ := Duration.bounds_of_isNormal sizeNormal
  have notNegative : 0 ≤ size.days := by
    simp only [Duration.total, Duration.microsecondsPerDay] at same
    omega
  rw [ofDuration_eq_ofSeconds sizeNormal same]
  have short : (digits (size.days * 24 + size.seconds / 3600).natAbs).length ≤ 10 + 1 := by
    apply length_digits_le
    have bound : Nat.pow 10 (10 + 1) = 100000000000 := rfl
    omega
  have underLimit : 10 + 1 ≤ Numeral.limit := by decide
  simp only [isNormal, Bool.and_eq_true, decide_eq_true_eq]
  simp only [ofSeconds, totalHours]
  omega

end TimeSpan

/-- A duration is stored as it is: the span has its sign and the fields of its size, stands for
the duration, and has a literal that reads back as the same span. -/
theorem ofRaw_duration_exact {duration : Duration} (normal : duration.isNormal = true)
    (kind : Option Kind) :
    ∃ span literal, Value.ofRaw kind (.duration duration) = .ok (.time span) ∧
      (span.negative = true ↔ duration.total < 0) ∧ 0 ≤ span.days ∧
      (0 ≤ span.hours ∧ span.hours ≤ 23) ∧ (0 ≤ span.minutes ∧ span.minutes ≤ 59) ∧
      (0 ≤ span.seconds ∧ span.seconds ≤ 59) ∧
      (0 ≤ span.microseconds ∧ span.microseconds ≤ 999999) ∧
      span.toDuration = .ok duration ∧
      Literal.ofRaw (.duration duration) = .ok literal ∧
      Literal.decode (some .time) literal = .ok (.time span) := by
  have spanNormal := TimeSpan.isNormal_ofDuration normal
  have adapted : Value.ofRaw none (.duration duration) = .ok (.time (.ofDuration duration)) := rfl
  have written : Literal.ofRaw (.duration duration) =
      .ok (Literal.quote (Literal.spanContent (.ofDuration duration))) := by
    simp only [Literal.ofRaw, adapted, Literal.encode, Literal.ofSpan_of_isNormal spanNormal]
  obtain ⟨days, hours, minutes, seconds, microseconds, -⟩ :=
    TimeSpan.bounds_of_isNormal spanNormal
  refine ⟨.ofDuration duration, _, rfl, ?_, days, hours, minutes, seconds,
    ⟨microseconds.1, Int.lt_add_one_iff.mp microseconds.2⟩,
    TimeSpan.toDuration_ofDuration normal, written, ?_⟩
  · simp [TimeSpan.ofDuration, TimeSpan.ofSeconds]
  · rw [Literal.decode_quote, Literal.readContent, Literal.readSpan_spanContent spanNormal]

/-- The lowest duration. -/
theorem ofRaw_duration_exact_lowest :
    ({ days := -999999999, seconds := 0, microseconds := 0 } : Duration).isNormal = true ∧
      ∃ span literal,
        Value.ofRaw none (.duration { days := -999999999, seconds := 0, microseconds := 0 }) =
            .ok (.time span) ∧
          (span.negative = true ↔
            ({ days := -999999999, seconds := 0, microseconds := 0 } : Duration).total < 0) ∧
          0 ≤ span.days ∧ (0 ≤ span.hours ∧ span.hours ≤ 23) ∧
          (0 ≤ span.minutes ∧ span.minutes ≤ 59) ∧ (0 ≤ span.seconds ∧ span.seconds ≤ 59) ∧
          (0 ≤ span.microseconds ∧ span.microseconds ≤ 999999) ∧
          span.toDuration = .ok { days := -999999999, seconds := 0, microseconds := 0 } ∧
          Literal.ofRaw (.duration { days := -999999999, seconds := 0, microseconds := 0 }) =
            .ok literal ∧
          Literal.decode (some .time) literal = .ok (.time span) :=
  ⟨by decide, ofRaw_duration_exact (by decide) none⟩

end SqlDump
