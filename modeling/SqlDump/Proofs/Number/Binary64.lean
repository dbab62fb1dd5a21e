import Mathlib.Algebra.Order.Field.Power
import Mathlib.Data.Rat.Cast.Order
import Mathlib.Tactic.FieldSimp
import Mathlib.Tactic.Linarith
import Mathlib.Tactic.Positivity
import Mathlib.Tactic.Ring
import SqlDump.Number.Binary64

/-!
# Doubles as rational numbers

The bits of a finite double are a sign, and below it the place of its exponent
with the significand added on. A quotient that equals the magnitude of a finite
double is rounded to exactly those bits: the place is found by the two powers of
two around the quotient, and nothing is left to round there.

Main statements: `eq_ofMagnitude_of_view` and `nearestMagnitude_eq`.
-/

namespace SqlDump

/-- A power is the quotient of the two powers with natural exponents. -/
theorem zpow_eq_div_pow (base : ℚ) (exponent : Int) :
    base ^ exponent = base ^ exponent.toNat / base ^ (-exponent).toNat := by
  cases exponent with
  | ofNat power => simp
  | negSucc power =>
      rw [zpow_negSucc, Int.toNat_negSucc, Int.neg_negSucc]
      simp

namespace Binary64

/-- A significand and an exponent that a finite double has. -/
structure IsFinite (significand : Nat) (exponent : Int) : Prop where
  fits : significand < 2 * exponentUnit
  low : -1074 ≤ exponent
  high : exponent ≤ 971
  leading : exponent = -1074 ∨ exponentUnit ≤ significand

/-- The least significand with a leading one is a power of two. -/
theorem cast_exponentUnit : (exponentUnit : ℚ) = 2 ^ (52 : Int) := by
  norm_num [exponentUnit]

/-- A significand has 53 bits at most. -/
theorem IsFinite.cast_lt {significand : Nat} {exponent : Int}
    (finite : IsFinite significand exponent) : (significand : ℚ) < 2 ^ (53 : Int) := by
  calc (significand : ℚ) < (2 * exponentUnit : Nat) := by exact_mod_cast finite.fits
    _ = 2 ^ (53 : Int) := by norm_num [exponentUnit]

/-- The bits below the sign of a finite double. -/
def finiteMagnitude (significand : Nat) (exponent : Int) : Nat :=
  (exponent + 1074).toNat * exponentUnit + significand

/-- Zero has no bits below its sign. -/
theorem finiteMagnitude_zero {exponent : Int} (finite : IsFinite 0 exponent) :
    finiteMagnitude 0 exponent = 0 := by
  rcases finite.leading with rfl | leading
  · rfl
  · exact absurd leading (by decide)

/-! ## The bits of a double -/

variable {number : Binary64} {negative : Bool} {significand : Nat} {exponent : Int}

/-- A double is its sign, its exponent and its fraction. -/
theorem eq_ofMagnitude (number : Binary64) :
    number = ofMagnitude number.isNegative
      (number.exponentBits * exponentUnit + number.fractionBits) := by
  have bound : number.bits.toNat < 0x10000000000000000 := number.bits.toNat_lt
  have bits : (if number.isNegative then signUnit else 0) +
      (number.exponentBits * exponentUnit + number.fractionBits) = number.bits.toNat := by
    simp only [exponentBits, fractionBits, exponentUnit]
    by_cases negative : number.bits.toNat / signUnit = 1
    · simp only [isNegative, negative, decide_true, if_true]
      simp only [signUnit] at negative ⊢
      omega
    · simp only [isNegative, negative, decide_false, Bool.false_eq_true, if_false]
      simp only [signUnit] at negative
      omega
  rw [ofMagnitude, bits, UInt64.ofNat_toNat]

theorem exponentBits_lt (number : Binary64) : number.exponentBits < 0x800 :=
  Nat.mod_lt _ (by decide)

theorem fractionBits_lt (number : Binary64) : number.fractionBits < exponentUnit :=
  Nat.mod_lt _ (by decide)

theorem isFinite_of_view (finite : number.view = .finite negative significand exponent) :
    IsFinite significand exponent := by
  have exponentBound := number.exponentBits_lt
  have fractionBound := number.fractionBits_lt
  simp only [view] at finite
  split at finite
  next => split at finite <;> cases finite
  next proper =>
    split at finite
    next =>
      cases finite
      exact ⟨by omega, by omega, by omega, .inl rfl⟩
    next =>
      cases finite
      exact ⟨by omega, by omega, by omega, .inr (by omega)⟩

/-- A finite double is its sign, and the bits of its significand and its exponent. -/
theorem eq_ofMagnitude_of_view (finite : number.view = .finite negative significand exponent) :
    number = ofMagnitude negative (finiteMagnitude significand exponent) := by
  have parts := number.eq_ofMagnitude
  simp only [view] at finite
  split at finite
  next => split at finite <;> cases finite
  next =>
    split at finite
    next zero =>
      cases finite
      simpa [zero, finiteMagnitude] using parts
    next positive =>
      cases finite
      have magnitude : finiteMagnitude (exponentUnit + number.fractionBits)
          ((number.exponentBits : Int) - 1075) =
            number.exponentBits * exponentUnit + number.fractionBits := by
        simp only [finiteMagnitude, exponentUnit]
        omega
      rw [magnitude]
      exact parts

/-! ## Rounding a quotient that needs none -/

variable {numerator denominator : Nat}

theorem scaleBinary_snd_pos (numerator : Nat) (positive : 0 < denominator) (exponent : Int) :
    0 < (scaleBinary numerator denominator exponent).2 :=
  Nat.mul_pos positive (Nat.pow_pos (by decide))

/-- Scaling divides a quotient by a power of two. -/
theorem scaleBinary_fst_div_snd (numerator denominator : Nat) (exponent : Int) :
    ((scaleBinary numerator denominator exponent).1 : ℚ) /
        (scaleBinary numerator denominator exponent).2 =
      (numerator : ℚ) / denominator / 2 ^ exponent := by
  simp only [scaleBinary, Nat.pow_eq, zpow_eq_div_pow 2 exponent]
  push_cast
  field_simp

/-- A scaled quotient reaches a bound where the quotient reaches the scaled bound. -/
theorem mul_snd_le_fst_scaleBinary_iff (numerator : Nat) (positive : 0 < denominator)
    (bound : Nat) (exponent : Int) :
    bound * (scaleBinary numerator denominator exponent).2 ≤
        (scaleBinary numerator denominator exponent).1 ↔
      (bound : ℚ) * 2 ^ exponent ≤ (numerator : ℚ) / denominator := by
  have unit : (0 : ℚ) < (scaleBinary numerator denominator exponent).2 := by
    exact_mod_cast scaleBinary_snd_pos numerator positive exponent
  rw [← le_div_iff₀ (zpow_pos (by norm_num) exponent), ← scaleBinary_fst_div_snd,
    le_div_iff₀ unit]
  exact_mod_cast Iff.rfl

/-- The binary lengths of two numbers bound their quotient from below. -/
theorem two_zpow_le_div (numeratorPositive : 0 < numerator)
    (denominatorPositive : 0 < denominator) :
    (2 : ℚ) ^ ((Nat.log2 numerator : Int) - Nat.log2 denominator - 1) ≤
      (numerator : ℚ) / denominator := by
  have divisor : (0 : ℚ) < denominator := by exact_mod_cast denominatorPositive
  have low : (2 : ℚ) ^ Nat.log2 numerator ≤ numerator := by
    exact_mod_cast Nat.log2_self_le numeratorPositive.ne'
  have high : (denominator : ℚ) ≤ 2 ^ (Nat.log2 denominator + 1) := by
    exact_mod_cast Nat.lt_log2_self.le
  rw [le_div_iff₀ divisor]
  calc (2 : ℚ) ^ ((Nat.log2 numerator : Int) - Nat.log2 denominator - 1) * denominator
      ≤ 2 ^ ((Nat.log2 numerator : Int) - Nat.log2 denominator - 1) *
          2 ^ (Nat.log2 denominator + 1) := by gcongr
    _ = 2 ^ Nat.log2 numerator := by
        rw [← zpow_natCast, ← zpow_natCast, ← zpow_add₀ two_ne_zero]
        congr 1
        omega
    _ ≤ numerator := low

/-- The binary lengths of two numbers bound their quotient from above. -/
theorem div_lt_two_zpow (numerator : Nat) (denominatorPositive : 0 < denominator) :
    (numerator : ℚ) / denominator <
      2 ^ ((Nat.log2 numerator : Int) - Nat.log2 denominator + 1) := by
  have divisor : (0 : ℚ) < denominator := by exact_mod_cast denominatorPositive
  have high : (numerator : ℚ) < 2 ^ (Nat.log2 numerator + 1) := by
    exact_mod_cast Nat.lt_log2_self
  have low : (2 : ℚ) ^ Nat.log2 denominator ≤ denominator := by
    exact_mod_cast Nat.log2_self_le denominatorPositive.ne'
  rw [div_lt_iff₀ divisor]
  calc (numerator : ℚ)
      < 2 ^ (Nat.log2 numerator + 1) := high
    _ = 2 ^ ((Nat.log2 numerator : Int) - Nat.log2 denominator + 1) *
          2 ^ Nat.log2 denominator := by
        rw [← zpow_natCast, ← zpow_natCast, ← zpow_add₀ two_ne_zero]
        congr 1
        omega
    _ ≤ 2 ^ ((Nat.log2 numerator : Int) - Nat.log2 denominator + 1) * denominator := by gcongr

/-- The place of a quotient lies between two successive powers of two. -/
theorem exists_placeExponent (numeratorPositive : 0 < numerator)
    (denominatorPositive : 0 < denominator) :
    ∃ place : Int, placeExponent numerator denominator = max (-1074) place ∧
      (2 : ℚ) ^ (place + 52) ≤ (numerator : ℚ) / denominator ∧
        (numerator : ℚ) / denominator < 2 ^ (place + 53) := by
  have low := two_zpow_le_div numeratorPositive denominatorPositive
  have high := div_lt_two_zpow numerator denominatorPositive
  -- The binary lengths leave two places; the comparison with a full significand decides.
  have decides := mul_snd_le_fst_scaleBinary_iff numerator denominatorPositive
    (2 * exponentUnit) ((Nat.log2 numerator : Int) - Nat.log2 denominator - 53)
  have full : ((2 * exponentUnit : Nat) : ℚ) = 2 ^ (53 : Int) := by norm_num [exponentUnit]
  rw [full, ← zpow_add₀ two_ne_zero] at decides
  simp only [placeExponent, ge_iff_le, decides]
  split
  next reaches =>
    exact ⟨_, rfl, le_of_eq_of_le (by congr 1; ring) reaches,
      lt_of_lt_of_eq high (by congr 1; ring)⟩
  next below =>
    exact ⟨_, rfl, le_of_eq_of_le (by congr 1; ring) low,
      lt_of_lt_of_eq (not_le.mp below) (by congr 1; ring)⟩

section Exact

variable (numeratorPositive : 0 < numerator) (denominatorPositive : 0 < denominator)
  (finite : IsFinite significand exponent)
  (same : (numerator : ℚ) / denominator = significand * 2 ^ exponent)

include numeratorPositive denominatorPositive finite same

/-- The place of the magnitude of a finite double is its exponent. -/
theorem placeExponent_eq : placeExponent numerator denominator = exponent := by
  obtain ⟨place, placed, low, high⟩ := exists_placeExponent numeratorPositive denominatorPositive
  have power : (0 : ℚ) < 2 ^ exponent := zpow_pos (by norm_num) exponent
  have fits := finite.cast_lt
  have notAbove : place + 52 < 53 + exponent := by
    rw [← zpow_lt_zpow_iff_right₀ (a := (2 : ℚ)) (by norm_num), zpow_add₀ two_ne_zero 53]
    calc (2 : ℚ) ^ (place + 52) ≤ significand * 2 ^ exponent := low.trans_eq same
      _ < 2 ^ (53 : Int) * 2 ^ exponent := by gcongr
  rw [placed]
  rcases finite.leading with least | leading
  · omega
  · have reaches : (2 : ℚ) ^ (52 : Int) ≤ significand := by
      rw [← cast_exponentUnit]
      exact_mod_cast leading
    have notBelow : 52 + exponent < place + 53 := by
      rw [← zpow_lt_zpow_iff_right₀ (a := (2 : ℚ)) (by norm_num), zpow_add₀ two_ne_zero 52]
      calc (2 : ℚ) ^ (52 : Int) * 2 ^ exponent ≤ significand * 2 ^ exponent := by gcongr
        _ < 2 ^ (place + 53) := same.symm.trans_lt high
    have least := finite.low
    omega

/-- A quotient that equals the magnitude of a finite double has its bits. -/
theorem nearestMagnitude_eq :
    nearestMagnitude numerator denominator = finiteMagnitude significand exponent := by
  have unit := scaleBinary_snd_pos numerator denominatorPositive exponent
  have scaled : (scaleBinary numerator denominator exponent).1 =
      significand * (scaleBinary numerator denominator exponent).2 := by
    have ratio := scaleBinary_fst_div_snd numerator denominator exponent
    rw [same, mul_div_cancel_right₀ _ (zpow_ne_zero exponent two_ne_zero),
      div_eq_iff (by exact_mod_cast unit.ne')] at ratio
    exact_mod_cast ratio
  have rounded : roundQuotient (scaleBinary numerator denominator exponent).1
      (scaleBinary numerator denominator exponent).2 = significand := by
    simp [roundQuotient, scaled, Nat.mul_div_cancel _ unit, unit]
  have bound : finiteMagnitude significand exponent ≤ infiniteMagnitude := by
    have fits := finite.fits
    have low := finite.low
    have high := finite.high
    simp only [finiteMagnitude, infiniteMagnitude, exponentUnit] at fits ⊢
    omega
  simp only [nearestMagnitude, if_neg numeratorPositive.ne',
    placeExponent_eq numeratorPositive denominatorPositive finite same, rounded]
  exact Nat.min_eq_right bound

end Exact

end Binary64

end SqlDump
