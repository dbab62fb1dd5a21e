import SqlDump.Proofs.Literal.RoundTrip
import SqlDump.Proofs.Number.FloatNumeral
import SqlDump.Proofs.Number.Shortest

/-!
# Literals of floating point numbers

A double is written without an exponent, with digits on both sides of the point.
The point keeps the literal from being read as a whole number, and the digits
stand for the rational number of the shortest numeral, so the literal reads back
as the double.

Main statement: `decode_positional`.
-/

namespace SqlDump.Literal

variable {number : Binary64} {negative : Bool} {significand : Nat} {exponent : Int}

/-! ## The shape of a literal -/

/-- A number with a point is no whole number. -/
theorem wholeNumber_positional (decimal : Scientific) :
    wholeNumber decimal.positional = none := by
  have point : ∀ symbol ∈ (Symbol.char '.' :: Digit.text decimal.positionalDigits.2).head?,
      symbol.digit? = none := by
    rintro symbol ⟨⟩
    decide
  rw [Scientific.positional,
    wholeNumber_withSign _ (Scientific.positionalDigits_ne_nil decimal).1 point,
    if_neg (List.cons_ne_nil _ _)]

/-- All symbols of a number with a point are bare. -/
theorem isBare_of_mem_positional {decimal : Scientific} {symbol : Symbol}
    (member : symbol ∈ decimal.positional) : IsBare symbol := by
  have digitsBare : ∀ {found : List Digit}, symbol ∈ Digit.text found → IsBare symbol := by
    intro found inDigits
    obtain ⟨digit, rfl⟩ := Digit.mem_text inDigits
    exact isBare_symbol digit
  have inBody : symbol ∈ Digit.text decimal.positionalDigits.1 ++
      .char '.' :: Digit.text decimal.positionalDigits.2 → IsBare symbol := by
    intro inBody
    rcases List.mem_append.mp inBody with inWhole | inRest
    · exact digitsBare inWhole
    · rcases List.mem_cons.mp inRest with rfl | inFraction
      · decide
      · exact digitsBare inFraction
  simp only [Scientific.positional, Scientific.withSign] at member
  split at member
  next =>
    rcases List.mem_cons.mp member with rfl | rest
    · decide
    · exact inBody rest
  next => exact inBody member

/-! ## Reading a literal back -/

/-- A number with a point is read as a double without a column. -/
theorem decode_scientificPositional {decimal read : Scientific}
    (finite : FloatNumeral.read decimal.positional = some (.finite read)) :
    decode none decimal.positional = .ok (.double read.nearest) := by
  have nonempty : decimal.positional ≠ [] := by
    intro none
    rw [none] at finite
    cases finite
  rw [decode_of_isBare none nonempty fun _ => isBare_of_mem_positional, readNumber,
    wholeNumber_positional]
  simp [readFloat, finite, FloatNumeral.nearest]

/-- The literal of a finite double consists of digits around a point, behind a dash where the
double has its sign bit set. The digits denote the rational number of the shown numeral, which has
the same sign and is nearest to the double, and without a column the literal is read as the
double. -/
theorem decode_positional (finite : number.view = .finite negative significand exponent) :
    ∃ (whole fraction : List Digit) (shown : Scientific),
      whole ≠ [] ∧ fraction ≠ [] ∧
        number.positional =
          Scientific.withSign negative (Digit.text whole ++ .char '.' :: Digit.text fraction) ∧
        FloatNumeral.read number.display = some (.finite shown) ∧
        shown.nearest = number ∧ shown.negative = negative ∧
        shown.magnitude = Digit.value (whole ++ fraction) / 10 ^ fraction.length ∧
        decode none number.positional = .ok (.double number) := by
  have sign := Binary64.shortestFinite_negative finite
  have nearest := Binary64.nearest_shortestFinite finite
  have literal : number.positional = _ := Binary64.render_of_view finite _ _
  have display : number.display = _ := Binary64.render_of_view finite _ _
  generalize number.shortestFinite negative significand exponent = shortest at *
  obtain ⟨wholeNonempty, fractionNonempty⟩ := Scientific.positionalDigits_ne_nil shortest
  obtain ⟨written, writtenRead, writtenSign, writtenMagnitude⟩ :=
    FloatNumeral.read_positional shortest
  obtain ⟨shown, shownRead, shownSign, shownMagnitude⟩ := FloatNumeral.read_short shortest
  have denoted := Scientific.magnitude_positionalDigits shortest
  rw [zpow_neg, zpow_natCast, ← div_eq_mul_inv] at denoted
  rw [literal, display]
  refine ⟨_, _, shown, wholeNonempty, fractionNonempty, by rw [Scientific.positional, sign],
    shownRead, ?_, shownSign.trans sign, shownMagnitude.trans denoted.symm, ?_⟩
  · rw [Scientific.nearest_congr shownSign shownMagnitude, nearest]
  · rw [decode_scientificPositional writtenRead,
      Scientific.nearest_congr writtenSign writtenMagnitude, nearest]

/-- The negative double next to zero, with 324 digits behind the point. -/
theorem decode_positional_negativeTiny :
    (Binary64.mk 0x8000000000000001).view = .finite true 1 (-1074) ∧
      ∃ (whole fraction : List Digit) (shown : Scientific),
        whole ≠ [] ∧ fraction ≠ [] ∧
          (Binary64.mk 0x8000000000000001).positional =
            Scientific.withSign true (Digit.text whole ++ .char '.' :: Digit.text fraction) ∧
          FloatNumeral.read (Binary64.mk 0x8000000000000001).display = some (.finite shown) ∧
          shown.nearest = Binary64.mk 0x8000000000000001 ∧ shown.negative = true ∧
          shown.magnitude = Digit.value (whole ++ fraction) / 10 ^ fraction.length ∧
          decode none (Binary64.mk 0x8000000000000001).positional =
            .ok (.double (Binary64.mk 0x8000000000000001)) := by
  have finite : (Binary64.mk 0x8000000000000001).view = .finite true 1 (-1074) := by decide
  exact ⟨finite, decode_positional finite⟩

end SqlDump.Literal
