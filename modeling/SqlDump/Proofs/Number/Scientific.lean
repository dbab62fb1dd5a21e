import Mathlib.Algebra.Order.Field.Power
import Mathlib.Data.Rat.Cast.Order
import Mathlib.Tactic.Linarith
import Mathlib.Tactic.Positivity
import Mathlib.Tactic.Ring
import SqlDump.Number.Scientific
import SqlDump.Proofs.Number.Numeral

/-!
# The rational number of a decimal

A decimal number stands for a rational number. The canonical form has the same
rational number and no factor of ten left in its coefficient, so numbers of the
same sign and magnitude have one canonical form, and with it one nearest double.

Main statements: `canonical_congr` and `nearest_congr`.
-/

namespace SqlDump

namespace Scientific

/-- The rational number that a decimal number stands for, without its sign. -/
def magnitude (number : Scientific) : ℚ :=
  number.coefficient * (10 : ℚ) ^ number.exponent

/-! ## Canonical form -/

/-- Factors of ten move into the exponent without a change of the product. -/
theorem mul_zpow_dropTens (fuel coefficient : Nat) (exponent : Int) :
    ((dropTens fuel coefficient exponent).1 : ℚ) *
        (10 : ℚ) ^ (dropTens fuel coefficient exponent).2 =
      coefficient * (10 : ℚ) ^ exponent := by
  induction fuel generalizing coefficient exponent with
  | zero => rfl
  | succ fuel hypothesis =>
      simp only [dropTens]
      split
      next multiple =>
        have tenfold : (coefficient : ℚ) = (coefficient / 10 : Nat) * 10 := by
          exact_mod_cast (Nat.div_mul_cancel (Nat.dvd_of_mod_eq_zero multiple)).symm
        rw [hypothesis, tenfold, zpow_add_one₀ (by norm_num)]
        ring
      next => rfl

/-- The binary length of a coefficient bounds its factors of ten. -/
theorem dropTens_mod_ten {fuel coefficient : Nat} (positive : coefficient ≠ 0)
    (enough : coefficient < 2 ^ (fuel + 1)) (exponent : Int) :
    (dropTens fuel coefficient exponent).1 % 10 ≠ 0 := by
  induction fuel generalizing coefficient exponent with
  | zero =>
      have one : coefficient = 1 := by omega
      simp [dropTens, one]
  | succ fuel hypothesis =>
      simp only [dropTens]
      split
      next multiple =>
        rw [Nat.pow_succ] at enough
        exact hypothesis (by omega) (by omega) _
      next rest => exact rest

@[simp] theorem canonical_negative (number : Scientific) :
    number.canonical.negative = number.negative := by
  rw [canonical]
  split <;> rfl

/-- The canonical form stands for the same rational number. -/
@[simp] theorem magnitude_canonical (number : Scientific) :
    number.canonical.magnitude = number.magnitude := by
  rw [canonical]
  split
  next zero => simp [magnitude, zero]
  next => exact mul_zpow_dropTens ..

theorem magnitude_eq_zero_iff {number : Scientific} :
    number.magnitude = 0 ↔ number.coefficient = 0 := by
  have power : (10 : ℚ) ^ number.exponent ≠ 0 := zpow_ne_zero _ (by norm_num)
  simp [magnitude, power]

/-- No factor of ten is left in a canonical coefficient, unless it is zero. -/
theorem canonical_coefficient_mod_ten {number : Scientific} (positive : number.coefficient ≠ 0) :
    number.canonical.coefficient % 10 ≠ 0 := by
  rw [canonical, if_neg positive]
  exact dropTens_mod_ten positive Nat.lt_log2_self _

/-- A product with the smaller exponent keeps a factor of ten unless the exponents agree. -/
theorem eq_of_mul_zpow_eq_of_le {left right : Nat} {low high : Int} (ordered : low ≤ high)
    (reduced : left % 10 ≠ 0)
    (same : (left : ℚ) * (10 : ℚ) ^ low = right * (10 : ℚ) ^ high) : left = right ∧ low = high := by
  obtain ⟨gap, rfl⟩ := Int.le.dest ordered
  have cancelled : left = right * 10 ^ gap := by
    rw [zpow_add₀ (by norm_num), zpow_natCast, mul_left_comm, mul_comm (left : ℚ)] at same
    exact_mod_cast mul_left_cancel₀ (zpow_ne_zero low (by norm_num)) same
  cases gap with
  | zero => simpa using cancelled
  | succ gap =>
      rw [Nat.pow_succ, ← Nat.mul_assoc] at cancelled
      omega

/-- A product of a power of ten and a number without factors of ten has one such form. -/
theorem eq_of_mul_zpow_eq {left right : Nat} {leftExponent rightExponent : Int}
    (leftReduced : left % 10 ≠ 0) (rightReduced : right % 10 ≠ 0)
    (same : (left : ℚ) * (10 : ℚ) ^ leftExponent = right * (10 : ℚ) ^ rightExponent) :
    left = right ∧ leftExponent = rightExponent := by
  rcases le_total leftExponent rightExponent with ordered | ordered
  · exact eq_of_mul_zpow_eq_of_le ordered leftReduced same
  · obtain ⟨sameCoefficient, sameExponent⟩ :=
      eq_of_mul_zpow_eq_of_le ordered rightReduced same.symm
    exact ⟨sameCoefficient.symm, sameExponent.symm⟩

/-- Numbers of one sign and one magnitude have one canonical form. -/
theorem canonical_congr {left right : Scientific} (sign : left.negative = right.negative)
    (same : left.magnitude = right.magnitude) : left.canonical = right.canonical := by
  by_cases zero : left.coefficient = 0
  · have rightZero : right.coefficient = 0 := by
      rw [← magnitude_eq_zero_iff, ← same, magnitude_eq_zero_iff, zero]
    simp [canonical, zero, rightZero, sign]
  · have rightPositive : right.coefficient ≠ 0 := by
      rwa [Ne, ← magnitude_eq_zero_iff, ← same, magnitude_eq_zero_iff]
    have sameCanonical : left.canonical.magnitude = right.canonical.magnitude := by simpa using same
    obtain ⟨coefficient, exponent⟩ :=
      eq_of_mul_zpow_eq (canonical_coefficient_mod_ten zero)
        (canonical_coefficient_mod_ten rightPositive) sameCanonical
    have negative : left.canonical.negative = right.canonical.negative := by simpa using sign
    calc left.canonical
        = ⟨left.canonical.negative, left.canonical.coefficient, left.canonical.exponent⟩ := rfl
      _ = right.canonical := by rw [negative, coefficient, exponent]

@[simp] theorem canonical_canonical (number : Scientific) :
    number.canonical.canonical = number.canonical :=
  canonical_congr (by simp) (by simp)

/-- The nearest double is a function of the sign and the rational number. -/
theorem nearest_congr {left right : Scientific} (sign : left.negative = right.negative)
    (same : left.magnitude = right.magnitude) : left.nearest = right.nearest := by
  simp only [nearest, canonical_congr sign same]

@[simp] theorem nearest_canonical (number : Scientific) :
    number.canonical.nearest = number.nearest :=
  nearest_congr (canonical_negative number) (magnitude_canonical number)

/-! ## The place of the leading digit -/

/-- The digits of a number reach up to its leading one. -/
theorem pow_length_digits_le {number : Nat} (positive : number ≠ 0) :
    10 ^ ((digits number).length - 1) ≤ number := by
  induction number using Nat.strongRecOn with
  | _ number hypothesis =>
      by_cases small : number < 10
      · rw [digits_of_lt small]
        exact Nat.pos_of_ne_zero positive
      · have tenth := hypothesis (number / 10) (by omega) (by omega)
        have nonempty := length_digits_pos (number / 10)
        rw [digits_of_le (Nat.le_of_not_lt small), List.length_append, List.length_singleton,
          Nat.add_sub_cancel]
        obtain ⟨places, length⟩ := Nat.exists_eq_succ_of_ne_zero nonempty.ne'
        rw [length] at tenth ⊢
        rw [Nat.succ_sub_one] at tenth
        rw [Nat.pow_succ]
        omega

theorem lt_pow_length_digits (number : Nat) : number < 10 ^ (digits number).length := by
  simpa using Digit.value_lt (digits number)

end Scientific

end SqlDump
