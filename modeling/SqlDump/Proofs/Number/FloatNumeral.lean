import SqlDump.Proofs.Number.Scientific

/-!
# Reading floating point numerals back

A decimal number is written with a point and no exponent, or with an exponent.
Both numerals begin with a digit, so no word and no second sign is seen in them,
and they read back with the sign and the rational number of the decimal.

Main statements: `read_positional`, `read_exponential` and `read_short`.
-/

namespace SqlDump

namespace Digit

/-- A symbol that is no digit is not among digits. -/
theorem notMem_text {symbol : Symbol} (noDigit : symbol.digit? = none) (found : List Digit) :
    symbol ∉ text found := by
  intro member
  obtain ⟨digit, rfl⟩ := mem_text member
  rw [digit?_symbol] at noDigit
  cases noDigit

/-- Zeros behind digits multiply their value by a power of ten. -/
theorem value_append_zeros (found : List Digit) (count : Nat) :
    value (found ++ zeros count) = value found * 10 ^ count := by
  induction count with
  | zero => simp [zeros]
  | succ count hypothesis =>
      have last : zeros (count + 1) = zeros count ++ [ofNat 0] := List.replicate_succ'
      rw [last, ← List.append_assoc, value_append_singleton, hypothesis, Nat.pow_succ,
        ← Nat.mul_assoc]
      rfl

end Digit

namespace Scientific

/-! ## Writing -/

/-- The digits around the point denote the number. -/
theorem magnitude_positionalDigits (number : Scientific) :
    (Digit.value (number.positionalDigits.1 ++ number.positionalDigits.2) : ℚ) *
        (10 : ℚ) ^ (-(number.positionalDigits.2.length : Int)) = number.magnitude := by
  simp only [positionalDigits, magnitude]
  split
  next whole =>
    obtain ⟨places, exact⟩ := Int.eq_ofNat_of_zero_le whole
    rw [exact, Int.toNat_natCast, Digit.value_append_zeros, Digit.value_append_zeros,
      Digit.value_digits]
    simp [Digit.zeros]
  next below =>
    have places : -((-number.exponent).toNat : Int) = number.exponent := by omega
    split
    next inside =>
      rw [List.take_append_drop, Digit.value_digits, List.length_drop,
        Nat.sub_sub_self inside.le, places]
    next outside =>
      have length : (Digit.zeros ((-number.exponent).toNat - (digits number.coefficient).length) ++
          digits number.coefficient).length = (-number.exponent).toNat := by
        rw [List.length_append, Digit.zeros, List.length_replicate]
        omega
      rw [Digit.value_zeros_append, Digit.value_zeros_append, Digit.value_digits, length, places]

/-- There are digits on both sides of the point. -/
theorem positionalDigits_ne_nil (number : Scientific) :
    number.positionalDigits.1 ≠ [] ∧ number.positionalDigits.2 ≠ [] := by
  simp only [positionalDigits]
  split
  next => simp [Digit.zeros]
  next below =>
    split
    next inside =>
      constructor
      · intro none
        rw [List.take_eq_nil_iff] at none
        rcases none with none | none
        · omega
        · exact digits_ne_nil _ none
      · intro none
        rw [List.drop_eq_nil_iff] at none
        omega
    next => simp [Digit.zeros]

/-- A numeral without an exponent is digits and their fraction. -/
theorem positional_eq (number : Scientific) :
    number.positional = withSign number.negative
      (Digit.text number.positionalDigits.1 ++ Digit.fractionText number.positionalDigits.2) := by
  rw [Digit.fractionText_of_ne_nil (positionalDigits_ne_nil number).2]
  rfl

/-- The exponent part of a numeral. -/
def exponentText (exponent : Int) : Text :=
  .char 'e' :: .char (if exponent < 0 then '-' else '+') ::
    Digit.text (exponentDigits exponent)

/-- A numeral with an exponent has one digit in front of its fraction. -/
theorem exponential_eq (number : Scientific) :
    number.exponential = withSign number.negative
      (Digit.text ((digits number.coefficient).take 1) ++
        (Digit.fractionText ((digits number.coefficient).drop 1) ++
          exponentText number.leadingExponent)) := by
  simp only [exponential, Digit.fractionText, List.drop_eq_nil_iff, List.append_assoc]
  rfl

end Scientific

namespace FloatNumeral

open Scientific (exponentDigits exponentText)

/-! ## Reading the parts of a numeral -/

/-- A text without underscores has none in a wrong place. -/
theorem underscoresSeparate_of_notMem {content : Text} (absent : .char '_' ∉ content)
    (previous : Bool) : underscoresSeparate previous content = true := by
  induction content generalizing previous with
  | nil => rfl
  | cons symbol rest hypothesis =>
      rw [List.mem_cons, not_or] at absent
      simp only [underscoresSeparate, if_neg (Ne.symm absent.1)]
      exact hypothesis absent.2 _

/-- A numeral that begins with a digit is no word and has no further sign. -/
theorem read_withSign {found : List Digit} (nonempty : found ≠ []) {rest : Text}
    (absent : .char '_' ∉ rest) (negative : Bool) :
    read (Scientific.withSign negative (Digit.text found ++ rest)) =
      (decimalPart negative (Digit.text found ++ rest)).map .finite := by
  have noUnderscore : .char '_' ∉ Digit.text found ++ rest := by
    rw [List.mem_append, not_or]
    exact ⟨Digit.notMem_text (by decide) found, absent⟩
  have separate := underscoresSeparate_of_notMem noUnderscore false
  have kept : (Digit.text found ++ rest).filter (· ≠ .char '_') = Digit.text found ++ rest :=
    List.filter_eq_self.mpr fun symbol member =>
      decide_eq_true fun same => noUnderscore (same ▸ member)
  have noDash : ∀ others, Digit.text found ++ rest ≠ .char '-' :: others :=
    Digit.text_append_ne_cons nonempty (by decide) rest
  have noPlus : ∀ others, Digit.text found ++ rest ≠ .char '+' :: others :=
    Digit.text_append_ne_cons nonempty (by decide) rest
  have noWord : small (Digit.text found ++ rest) ∉ [text "inf", text "infinity", text "nan"] := by
    have letter : ∀ digit : Digit, digit.char.toLower ≠ 'i' ∧ digit.char.toLower ≠ 'n' := by
      decide
    cases found with
    | nil => exact absurd rfl nonempty
    | cons first others => simp [small, Digit.symbol, text, letter first]
  simp only [List.mem_cons, List.not_mem_nil, or_false, not_or] at noWord
  obtain ⟨notInf, notInfinity, notNan⟩ := noWord
  generalize Digit.text found ++ rest = body at *
  cases negative <;>
    simp only [read, Scientific.withSign, Bool.false_eq_true, if_false, if_true, notInf,
      notInfinity, or_self, notNan, separate, kept]

/-- Digits, a fraction that may be missing, and the exponent behind them. -/
theorem decimalPart_text (negative : Bool) {whole : List Digit} (nonempty : whole ≠ [])
    (fraction : List Digit) {rest : Text} (ends : ∀ symbol ∈ rest.head?, symbol.digit? = none)
    (noPoint : ∀ others, rest ≠ .char '.' :: others) :
    decimalPart negative (Digit.text whole ++ (Digit.fractionText fraction ++ rest)) =
      (exponentPart rest).map fun exponent =>
        { negative, coefficient := Digit.value (whole ++ fraction),
          exponent := exponent - (fraction.length : Int) } := by
  have run := digitRun_text whole (Digit.digit?_head?_fractionText_append fraction ends)
  by_cases parted : fraction = []
  · simp only [parted, Digit.fractionText, if_true, List.nil_append] at run ⊢
    simp [decimalPart, run, nonempty]
  · rw [Digit.fractionText_of_ne_nil parted, List.cons_append] at run ⊢
    simp [decimalPart, run, digitRun_text fraction ends, nonempty]

/-- An exponent is written with its sign and two digits at least. -/
theorem exponentPart_exponentText (exponent : Int) :
    exponentPart (exponentText exponent) = some exponent := by
  have value : (Digit.value (exponentDigits exponent) : Int) = exponent.natAbs := by
    rw [exponentDigits, Digit.value_zeros_append, Digit.value_digits]
  have run : digitRun Symbol.digit? (Digit.text (exponentDigits exponent)) =
      (exponentDigits exponent, []) := by
    rw [← List.append_nil (Digit.text _)]
    exact digitRun_text _ (by simp)
  have nonempty : exponentDigits exponent ≠ [] := by
    simp [exponentDigits]
  obtain ⟨first, others, parts⟩ := List.exists_cons_of_ne_nil nonempty
  rw [parts] at run value
  by_cases below : exponent < 0
  · simp only [exponentPart, exponentText, below, if_true, true_or, parts, run, value]
    congr 1
    omega
  · simp only [exponentPart, exponentText, below, Bool.false_eq_true, if_false, true_or, if_true,
      parts, run, value]
    congr 1
    omega

theorem underscore_notMem_exponentText (exponent : Int) :
    .char '_' ∉ exponentText exponent := by
  simp only [exponentText, List.mem_cons, not_or]
  refine ⟨by decide, ?_, Digit.notMem_text (by decide) _⟩
  split <;> decide

theorem underscore_notMem_fractionText (fraction : List Digit) :
    .char '_' ∉ Digit.fractionText fraction := by
  rw [Digit.fractionText]
  split
  next => simp
  next =>
    rw [List.mem_cons, not_or]
    exact ⟨by decide, Digit.notMem_text (by decide) _⟩

/-! ## Whole numerals -/

/-- The numeral without an exponent stands for the number. -/
theorem read_positional (number : Scientific) :
    ∃ decimal : Scientific, read number.positional = some (.finite decimal) ∧
      decimal.negative = number.negative ∧ decimal.magnitude = number.magnitude := by
  obtain ⟨wholeNonempty, -⟩ := Scientific.positionalDigits_ne_nil number
  refine ⟨⟨number.negative, Digit.value (number.positionalDigits.1 ++ number.positionalDigits.2),
    -(number.positionalDigits.2.length : Int)⟩, ?_, rfl, number.magnitude_positionalDigits⟩
  rw [Scientific.positional_eq, read_withSign wholeNonempty (underscore_notMem_fractionText _),
    ← List.append_nil (Digit.fractionText _),
    decimalPart_text _ wholeNonempty _ (by simp) (by simp)]
  simp [exponentPart]

/-- The numeral with an exponent reads back as the number. -/
theorem read_exponential (number : Scientific) :
    read number.exponential = some (.finite number) := by
  have one : (digits number.coefficient).take 1 ≠ [] := by simp
  have noUnderscore : .char '_' ∉ Digit.fractionText ((digits number.coefficient).drop 1) ++
      exponentText number.leadingExponent := by
    rw [List.mem_append, not_or]
    exact ⟨underscore_notMem_fractionText _, underscore_notMem_exponentText _⟩
  have mark : ∀ symbol ∈ (exponentText number.leadingExponent).head?, symbol.digit? = none := by
    rintro symbol ⟨⟩
    decide
  have exponent : number.leadingExponent - (((digits number.coefficient).drop 1).length : Int) =
      number.exponent := by
    have nonempty := length_digits_pos number.coefficient
    rw [Scientific.leadingExponent, List.length_drop]
    omega
  rw [Scientific.exponential_eq, read_withSign one noUnderscore,
    decimalPart_text _ one _ mark (by simp [exponentText]), exponentPart_exponentText,
    List.take_append_drop, Digit.value_digits, Option.map_some, exponent]
  rfl

/-- The shown numeral stands for the number. -/
theorem read_short (number : Scientific) :
    ∃ decimal : Scientific, read number.short = some (.finite decimal) ∧
      decimal.negative = number.negative ∧ decimal.magnitude = number.magnitude := by
  rw [Scientific.short]
  split
  next => exact read_positional number
  next => exact ⟨number, read_exponential number, rfl, rfl⟩

end FloatNumeral

end SqlDump
