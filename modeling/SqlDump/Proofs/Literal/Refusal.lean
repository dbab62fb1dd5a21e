import SqlDump.Proofs.Literal.Acceptance

/-!
# How reading fails

An error of the reader says that the text is no literal, with two exceptions. The hours of a time
span are converted after everything else has been checked, and a conversion of too many digits
has an error of its own; so has the writing of a content as octets, where the column asks for no
moment and no span. So exactly those spans escape whose hours are too long while their minutes and
seconds are in range, and those contents that have a lone surrogate.

Main statement: `escapes_decode_iff`.
-/

namespace SqlDump.Literal

open Text

open scoped Computability

/-- The spans whose hours have too many digits, with minutes and seconds in range. -/
def overlong : Language Symbol :=
  Dialect.reader.spanWhere (fun hours => Numeral.limit < hours.length) (· ≤ 59)

/-- The contents at which the conversion of a literal gives up: spans with too long hours, and
contents without octets where octets are asked for. -/
def unconverted : Option Kind → Language Symbol
  | some .dateTime => 0
  | some .time => overlong
  | _ => {content | Text.hasLone content = true}

/-- Whether a result is an error that does not say that the text is no literal. -/
def Escapes (result : Except LiteralError Value) : Prop :=
  ∃ error, result = .error error ∧ error.isRejection = false

@[simp] theorem not_escapes_ok (value : Value) : ¬Escapes (.ok value) := by
  rintro ⟨error, same, -⟩
  cases same

@[simp] theorem escapes_error_iff {error : LiteralError} :
    Escapes (.error error) ↔ error.isRejection = false := by
  constructor
  · rintro ⟨_, ⟨⟩, escapes⟩
    exact escapes
  · exact fun escapes => ⟨error, rfl, escapes⟩

theorem escapes_readSpan_iff (content : Text) :
    Escapes (readContent (some .time) content) ↔ content ∈ overlong := by
  have taken : Takes spanFields
      (fun (_, hours, minutes, seconds, _) =>
        (Numeral.limit < hours.length ∧ minutes ≤ 59) ∧ seconds ≤ 59) True overlong :=
    takes_spanFields fun _ _ _ _ _ => by
      dsimp only
      omega
  have read := taken content
  rw [true_and] at read
  rw [← read]
  simp only [readContent, readSpan]
  cases spanFields content with
  | none => simp [LiteralError.isRejection]
  | some fields =>
      obtain ⟨negative, hours, minutes, seconds, microseconds⟩ := fields
      by_cases late : 59 < minutes ∨ 59 < seconds
      · have notInRange : ¬(minutes ≤ 59 ∧ seconds ≤ 59) := by omega
        simp [late, LiteralError.isRejection, and_assoc, notInRange]
      · have inRange : minutes ≤ 59 ∧ seconds ≤ 59 := by omega
        by_cases long : Numeral.limit < hours.length <;>
          simp [late, long, LiteralError.isRejection, inRange]

theorem not_escapes_readMoment (content : Text) :
    ¬Escapes (readContent (some .dateTime) content) := by
  simp only [readContent, readMoment]
  cases momentFields content with
  | none => simp [LiteralError.isRejection]
  | some moment =>
      cases storable : isStorable moment <;> simp [storable, LiteralError.isRejection]

theorem escapes_readOctets_iff (content : Text) :
    Escapes (readOctets content) ↔ content.hasLone = true := by
  rw [← Encoding.encode_utf8_eq_error_iff, readOctets]
  cases Encoding.utf8.encode content <;> simp [LiteralError.isRejection]

theorem escapes_readContent_iff (kind : Option Kind) (content : Text) :
    Escapes (readContent kind content) ↔ content ∈ unconverted kind := by
  cases kind with
  | none => exact escapes_readOctets_iff content
  | some kind =>
      cases kind with
      | null | integer | float | double | bytes => exact escapes_readOctets_iff content
      | dateTime => exact iff_of_false (not_escapes_readMoment content) (Language.notMem_zero _)
      | time => exact escapes_readSpan_iff content

theorem escapes_readBody_iff (kind : Option Kind) {quote : Symbol} (listed : quote ∈ quotes)
    (body : Text) :
    Escapes (readBody kind quote body) ↔
      quote :: (body ++ [quote]) ∈ quoted (unconverted kind) := by
  rw [mem_quoted_iff listed, readBody]
  cases unescape quote body with
  | error error => simp [LiteralError.isRejection]
  | ok content => simp [escapes_readContent_iff]

theorem not_escapes_readFloat (kind : Option Kind) (literal : Text) :
    ¬Escapes (readFloat kind literal) := by
  rw [readFloat]
  cases FloatNumeral.read literal <;> simp [LiteralError.isRejection]

theorem not_escapes_readNumber (kind : Option Kind) (literal : Text) :
    ¬Escapes (readNumber kind literal) := by
  simp only [readNumber]
  split
  next =>
    split
    next => exact not_escapes_readFloat kind literal
    next =>
      simp only [readInteger]
      split
      next => simp [LiteralError.isRejection]
      next => split <;> simp [LiteralError.isRejection]
  next => exact not_escapes_readFloat kind literal

/-- Every failure says that the text is no literal, except for quoted spans with too long hours and
for other quoted contents with a lone surrogate. -/
theorem escapes_decode_iff (kind : Option Kind) (content : Text) :
    (∃ error, decode kind content = .error error ∧ error.isRejection = false) ↔
      Text.strip content ∈ quoted (unconverted kind) := by
  change Escapes (decode kind content) ↔ _
  have reads := reads_decode kind content
  generalize Text.strip content = literal at reads
  generalize decode kind content = result at reads
  cases reads with
  | empty =>
      refine iff_of_false (by simp [LiteralError.isRejection]) ?_
      rintro ⟨quote, -, body, inner, same, -⟩
      cases same
  | null word =>
      refine iff_of_false (by simp) ?_
      rintro ⟨quote, listed, body, inner, rfl, -⟩
      exact capitals_ne_null_of_quote listed _ word
  | quoted body listed => exact escapes_readBody_iff kind listed body
  | unterminated listed opened =>
      refine iff_of_false (by simp [LiteralError.isRejection]) ?_
      rintro ⟨quote, -, body, inner, same, -⟩
      obtain ⟨rfl, rfl⟩ := List.cons.inj same
      exact opened body rfl
  | number bare notNull =>
      refine iff_of_false (not_escapes_readNumber kind _) ?_
      rintro ⟨quote, listed, body, inner, same, -⟩
      exact bare ((List.cons.inj same).1 ▸ listed)

/-- The lone surrogate U+D800 between quotes. -/
example :
    decode none [.char '\'', .lone { code := 0xD800, isLone := by decide }, .char '\''] =
      .error (.unwritable
        { encoding := .utf8, place := 0, span := 1
          first := .lone { code := 0xD800, isLone := by decide } }) := by
  decide +kernel

/-- Hours with too many digits at the full hour. -/
theorem escapes_decode_of_hours {hours : List Digit} (long : Numeral.limit < hours.length) :
    Escapes (decode (some .time)
      (.char '\'' :: (Digit.text hours ++ text ":00:00" ++ [.char '\'']))) := by
  have clock : text "00:00" ∈ Dialect.reader.clock (· ≤ 59) := by
    have taken : Takes endClock (fun fields => fields.1 ≤ 59 ∧ fields.2.1 ≤ 59) True
        (Dialect.reader.clock (· ≤ 59)) :=
      takes_endClock fun _ _ _ => by
        dsimp only
        rw [true_and]
        omega
    exact ((taken _).mp ⟨(0, 0, 0), by decide, by decide⟩).2
  have inside : Digit.text hours ++ text ":00:00" ∈ overlong := by
    have run : digitRun Symbol.digit? (Digit.text hours ++ text ":00:00") =
        (hours, text ":00:00") :=
      digitRun_text hours (by decide)
    rw [← List.nil_append (Digit.text hours ++ text ":00:00")]
    refine Language.append_mem_mul (.inl rfl)
      ((mem_spelled_mul_iff (endsDigits_separator_mul (by simp) _) _).mpr ?_)
    rw [run]
    exact ⟨⟨List.ne_nil_of_length_pos (Nat.zero_lt_of_lt long), long⟩,
      cons_mem_oneOf_mul_iff.mpr ⟨rfl, clock⟩⟩
  have written : escape (Digit.text hours ++ text ":00:00") =
      Digit.text hours ++ text ":00:00" := by
    refine escape_eq_self (List.forall_mem_append.mpr ⟨fun symbol member => ?_, by decide⟩)
    obtain ⟨digit, rfl⟩ := Digit.mem_text member
    exact symbol_not_mem_escaped digit
  rw [← written]
  exact decode_quote (some .time) _ ▸ (escapes_readSpan_iff _).mpr inside

/-- Hours of one digit more than the limit. -/
theorem decode_overlong_hours :
    ∃ error, decode (some .time)
        (.char '\'' :: (Digit.text (List.replicate 4301 1) ++ text ":00:00" ++ [.char '\''])) =
          .error error ∧
      error.isRejection = false :=
  escapes_decode_of_hours (by
    rw [List.length_replicate]
    decide)

end SqlDump.Literal
