import SqlDump.Literal.Encode
import SqlDump.Proofs.Literal.Temporal
import SqlDump.Proofs.Text.Utf8

/-!
# Reading literals back

A value that the server stores is what its literal reads back as, for a reader that
knows the kind of its column. Octets, integers and NULL need no column.

Main statement: `decode_encode`.
-/

namespace SqlDump

/-- Whether a value is stored by the server and written without rounding. -/
def Value.isExact : Value → Bool
  | .null => true
  | .integer _ => true
  | .float _ => false
  | .double _ => false
  | .bytes _ => true
  | .dateTime moment => moment.isStored
  | .time span => span.isNormal

namespace Literal

/-! ## Integers -/

/-- Digits behind a sign are a whole number where nothing follows them. -/
theorem wholeNumber_withSign (negative : Bool) {found : List Digit} (nonempty : found ≠ [])
    {rest : Text} (ends : ∀ symbol ∈ rest.head?, symbol.digit? = none) :
    wholeNumber (Scientific.withSign negative (Digit.text found ++ rest)) =
      if rest = [] then some (negative, found) else none := by
  have run := digitRun_text found ends
  have noDash : ∀ others, Digit.text found ++ rest ≠ .char '-' :: others :=
    Digit.text_append_ne_cons nonempty (by decide) rest
  have noPlus : ∀ others, Digit.text found ++ rest ≠ .char '+' :: others :=
    Digit.text_append_ne_cons nonempty (by decide) rest
  generalize Digit.text found ++ rest = body at run noDash noPlus ⊢
  obtain ⟨first, others, rfl⟩ := List.exists_cons_of_ne_nil nonempty
  cases negative <;> cases rest <;>
    simp [wholeNumber, Scientific.withSign, run]

/-- A numeral is read as its sign and its digits. -/
theorem wholeNumber_plain (number : Int) :
    wholeNumber (Numeral.plain number) = some (decide (number < 0), digits number.natAbs) := by
  rw [Numeral.plain_eq_withSign, ← List.append_nil (Digit.text _),
    wholeNumber_withSign _ (digits_ne_nil _) (by simp), if_pos rfl]

/-- The digits of an integer of 64 bits can be converted. -/
theorem length_digits_wide (wide : WideInteger) :
    (digits wide.number.natAbs).length ≤ Numeral.limit := by
  have inRange := wide.inRange
  have short : (digits wide.number.natAbs).length ≤ 19 + 1 := by
    apply length_digits_le
    have bound : Nat.pow 10 (19 + 1) = 100000000000000000000 := rfl
    omega
  have underLimit : 19 + 1 ≤ Numeral.limit := by decide
  exact Nat.le_trans short underLimit

theorem readInteger_digits (wide : WideInteger) :
    readInteger (decide (wide.number < 0)) (digits wide.number.natAbs) = .ok (.integer wide) := by
  have number : Numeral.signed (decide (wide.number < 0)) (digits wide.number.natAbs) =
      wide.number := by
    simp only [Numeral.signed, Digit.value_digits, decide_eq_true_eq]
    split <;> omega
  rw [readInteger, if_neg (Nat.not_lt.mpr (length_digits_wide wide)), number]
  simp

/-- Whether a symbol is no blank and no quote, and does not begin NULL. -/
def IsBare (symbol : Symbol) : Prop :=
  symbol.isBlank = false ∧ (symbol ≠ .char '\'' ∧ symbol ≠ .char '"') ∧
    symbol.capital = [symbol] ∧ symbol ≠ .char 'N'

instance (symbol : Symbol) : Decidable (IsBare symbol) :=
  inferInstanceAs (Decidable (_ ∧ _))

theorem isBare_symbol (digit : Digit) : IsBare digit.symbol := by
  revert digit
  decide

theorem isBare_of_mem_plain {symbol : Symbol} {number : Int}
    (member : symbol ∈ Numeral.plain number) : IsBare symbol := by
  rcases Numeral.mem_plain member with rfl | ⟨digit, rfl⟩
  · decide
  · exact isBare_symbol digit

/-- A text of bare symbols is read as a number. -/
theorem decode_of_isBare (kind : Option Kind) {content : Text} (nonempty : content ≠ [])
    (bare : ∀ symbol ∈ content, IsBare symbol) : decode kind content = readNumber kind content := by
  have trimmed : Text.strip content = content :=
    Text.strip_eq_self
      (fun symbol isFirst => (bare symbol (List.mem_of_mem_head? isFirst)).1)
      (fun symbol isLast => (bare symbol (List.mem_of_getLast? isLast)).1)
  rw [decode, trimmed]
  cases content with
  | nil => exact absurd rfl nonempty
  | cons first rest =>
      obtain ⟨-, ⟨notSingle, notDouble⟩, same, notNull⟩ := bare first List.mem_cons_self
      have notWord : Text.capitals (first :: rest) ≠ text "NULL" := by
        simp [Text.capitals, same, text, notNull]
      simp only [notWord, notSingle, notDouble, if_false, or_self]

/-- A numeral is read as a number. -/
theorem decode_plain (kind : Option Kind) (number : Int) :
    decode kind (Numeral.plain number) = readNumber kind (Numeral.plain number) :=
  decode_of_isBare kind (Numeral.plain_ne_nil number) fun _ => isBare_of_mem_plain

theorem decode_integer {kind : Option Kind} (whole : isFloatKind kind = false)
    (wide : WideInteger) : decode kind (Numeral.plain wide.number) = .ok (.integer wide) := by
  rw [decode_plain, readNumber, wholeNumber_plain]
  simp [whole, readInteger_digits]

/-! ## Values -/

theorem decode_ofOctets {kind : Option Kind} (plain : kind = some .bytes ∨ kind = none)
    (octets : Octets) : decode kind (ofOctets octets) = .ok (.bytes octets) := by
  rw [ofOctets, decode_quote, Encoding.decode]
  rcases plain with rfl | rfl <;>
    simp only [readContent, readOctets, Encoding.encode_utf8_decode]

/-- A value that the server stores and that is written without rounding has a literal,
and the literal reads back as the value. -/
theorem decode_encode {value : Value} (exact : value.isExact = true) :
    ∃ literal, encode value = .ok literal ∧ decode (some value.kind) literal = .ok value ∧
      (value.kind ∈ [.null, .integer, .bytes] → decode none literal = .ok value) := by
  cases value with
  | null => exact ⟨_, rfl, by decide, fun _ => by decide⟩
  | integer wide =>
      exact ⟨_, rfl, decode_integer rfl wide, fun _ => decode_integer rfl wide⟩
  | float number => cases exact
  | double number => cases exact
  | bytes octets =>
      exact ⟨_, rfl, decode_ofOctets (.inl rfl) octets, fun _ => decode_ofOctets (.inr rfl) octets⟩
  | dateTime moment =>
      refine ⟨_, ofMoment_of_isStored exact, ?_, fun bare => by simp [Value.kind] at bare⟩
      rw [decode_quote, Value.kind, readContent, readMoment_momentContent exact]
  | time span =>
      refine ⟨_, ofSpan_of_isNormal exact, ?_, fun bare => by simp [Value.kind] at bare⟩
      rw [decode_quote, Value.kind, readContent, readSpan_spanContent exact]

/-- A negative zero time span. -/
theorem decode_encode_negativeZero :
    (Value.time { negative := true, days := 0, hours := 0, minutes := 0, seconds := 0 }).isExact =
        true ∧
      ∃ literal,
        encode (.time { negative := true, days := 0, hours := 0, minutes := 0, seconds := 0 }) =
            .ok literal ∧
          decode (some .time) literal =
            .ok (.time { negative := true, days := 0, hours := 0, minutes := 0, seconds := 0 }) ∧
          (Kind.time ∈ [Kind.null, .integer, .bytes] → decode none literal =
            .ok (.time { negative := true, days := 0, hours := 0, minutes := 0, seconds := 0 })) :=
  ⟨by decide, decode_encode (by decide)⟩

end Literal

end SqlDump
