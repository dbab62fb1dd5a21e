import SqlDump.Number.Shortest
import SqlDump.Proofs.Number.Binary64
import SqlDump.Proofs.Number.Scientific

/-!
# The shortest decimal reads back

A decimal number that has the sign and the magnitude of a finite double is
nearest to that double: the cut-offs for numbers far outside the range lie
beyond every finite magnitude. Each candidate of the search is checked to be
nearest to the double, and the full expansion behind the search has its
magnitude.

Main statement: `nearest_shortestFinite`.
-/

namespace SqlDump

namespace Scientific

/-! ## The place of the leading digit -/

variable {number : Scientific}

/-- A number reaches the power of ten at its leading digit. -/
theorem zpow_leadingExponent_le (positive : number.coefficient ≠ 0) :
    (10 : ℚ) ^ number.leadingExponent ≤ number.magnitude := by
  have nonempty := length_digits_pos number.coefficient
  have leading : (10 : ℚ) ^ ((digits number.coefficient).length - 1) ≤ number.coefficient := by
    exact_mod_cast pow_length_digits_le positive
  calc (10 : ℚ) ^ number.leadingExponent
      = 10 ^ ((digits number.coefficient).length - 1) * 10 ^ number.exponent := by
        rw [← zpow_natCast, ← zpow_add₀ (by norm_num), leadingExponent]
        congr 1
        omega
    _ ≤ number.magnitude := by
        rw [magnitude]
        gcongr

/-- A number stays below the power of ten above its leading digit. -/
theorem magnitude_lt_zpow (number : Scientific) :
    number.magnitude < (10 : ℚ) ^ (number.leadingExponent + 1) := by
  have bound : (number.coefficient : ℚ) < 10 ^ (digits number.coefficient).length := by
    exact_mod_cast lt_pow_length_digits number.coefficient
  calc number.magnitude < 10 ^ (digits number.coefficient).length * 10 ^ number.exponent := by
        rw [magnitude]
        gcongr
    _ = 10 ^ (number.leadingExponent + 1) := by
        rw [← zpow_natCast, ← zpow_add₀ (by norm_num), leadingExponent]
        congr 1
        omega

/-- The quotient of a number is its magnitude. -/
theorem quotient_fst_div_snd (number : Scientific) :
    (number.quotient.1 : ℚ) / number.quotient.2 = number.magnitude := by
  simp only [quotient, magnitude, Nat.pow_eq, zpow_eq_div_pow 10 number.exponent]
  push_cast
  ring

/-! ## Decimals of a finite magnitude -/

theorem two_zpow_lt_ten_zpow (binary decimal : Nat) (natural : 2 ^ binary < 10 ^ decimal) :
    (2 : ℚ) ^ (binary : Int) < 10 ^ (decimal : Int) := by
  exact_mod_cast natural

/-- The power of two above all finite doubles is below the upper cut-off. -/
theorem two_zpow_lt_hugeExponent : (2 : ℚ) ^ (1024 : Int) < 10 ^ hugeExponent :=
  two_zpow_lt_ten_zpow 1024 310 (by decide +kernel)

/-- The least positive double is above the lower cut-off. -/
theorem tinyExponent_lt_two_zpow : (10 : ℚ) ^ (tinyExponent - 1) < 2 ^ (-1074 : Int) := by
  have place : tinyExponent - 1 = -331 := rfl
  have powers := two_zpow_lt_ten_zpow 1074 331 (by decide +kernel)
  rw [place, zpow_neg, zpow_neg]
  exact inv_strictAnti₀ (zpow_pos (by norm_num) _) powers

section Finite

variable {significand : Nat} {exponent : Int} (finite : Binary64.IsFinite significand exponent)
  (same : number.magnitude = significand * (2 : ℚ) ^ exponent)

include finite same

/-- Every finite magnitude is below the upper cut-off. -/
theorem leadingExponent_lt_hugeExponent (positive : number.coefficient ≠ 0) :
    number.leadingExponent < hugeExponent := by
  have fits := finite.cast_lt.le
  have power : (2 : ℚ) ^ exponent ≤ 2 ^ (971 : Int) :=
    zpow_le_zpow_right₀ (by norm_num) finite.high
  rw [← zpow_lt_zpow_iff_right₀ (a := (10 : ℚ)) (by norm_num)]
  calc (10 : ℚ) ^ number.leadingExponent ≤ significand * 2 ^ exponent :=
        (zpow_leadingExponent_le positive).trans_eq same
    _ ≤ 2 ^ (53 : Int) * 2 ^ (971 : Int) := by gcongr
    _ = 2 ^ (1024 : Int) := (zpow_add₀ two_ne_zero 53 971).symm
    _ < 10 ^ hugeExponent := two_zpow_lt_hugeExponent

/-- Every positive finite magnitude is above the lower cut-off. -/
theorem tinyExponent_le_leadingExponent (positive : number.coefficient ≠ 0) :
    tinyExponent ≤ number.leadingExponent + 1 := by
  have nonzero : significand ≠ 0 := by
    rintro rfl
    exact positive (magnitude_eq_zero_iff.mp (by simpa using same))
  have one : (1 : ℚ) ≤ significand := by exact_mod_cast Nat.one_le_iff_ne_zero.mpr nonzero
  have power : (2 : ℚ) ^ (-1074 : Int) ≤ 2 ^ exponent :=
    zpow_le_zpow_right₀ (by norm_num) finite.low
  have above : tinyExponent - 1 < number.leadingExponent + 1 := by
    rw [← zpow_lt_zpow_iff_right₀ (a := (10 : ℚ)) (by norm_num)]
    calc (10 : ℚ) ^ (tinyExponent - 1) < 1 * 2 ^ (-1074 : Int) :=
          tinyExponent_lt_two_zpow.trans_eq (one_mul _).symm
      _ ≤ significand * 2 ^ exponent := by gcongr
      _ < 10 ^ (number.leadingExponent + 1) := same.symm.trans_lt number.magnitude_lt_zpow
  omega

/-- A decimal with the magnitude of a finite double is nearest to it. -/
theorem nearest_eq_ofMagnitude :
    number.nearest =
      .ofMagnitude number.negative (Binary64.finiteMagnitude significand exponent) := by
  have sameReduced : number.canonical.magnitude = significand * (2 : ℚ) ^ exponent := by
    rw [magnitude_canonical, same]
  simp only [nearest, canonical_negative]
  split
  next zero =>
    have significandZero : significand = 0 := by
      have product := sameReduced.symm.trans (magnitude_eq_zero_iff.mpr zero)
      simpa [zpow_ne_zero exponent (two_ne_zero : (2 : ℚ) ≠ 0)] using product
    subst significandZero
    rw [Binary64.finiteMagnitude_zero finite]
    rfl
  next positive =>
    have huge := leadingExponent_lt_hugeExponent finite sameReduced positive
    have tiny := tinyExponent_le_leadingExponent finite sameReduced positive
    rw [leadingExponent] at huge tiny
    rw [if_neg (by omega), if_neg (by omega), Binary64.nearest]
    have numeratorPositive : 0 < number.canonical.quotient.1 :=
      Nat.mul_pos (Nat.pos_of_ne_zero positive) (Nat.pow_pos (by decide))
    have denominatorPositive : 0 < number.canonical.quotient.2 := Nat.pow_pos (by decide)
    rw [Binary64.nearestMagnitude_eq numeratorPositive denominatorPositive finite
      ((quotient_fst_div_snd _).trans sameReduced)]

end Finite

end Scientific

namespace Binary64

variable {number : Binary64} {negative : Bool} {significand : Nat} {exponent : Int}

/-! ## The search -/

/-- The full expansion of a double has its magnitude. -/
theorem magnitude_exactDecimal (negative : Bool) (significand : Nat) (exponent : Int) :
    (exactDecimal negative significand exponent).magnitude = significand * (2 : ℚ) ^ exponent := by
  have ten : (10 : ℚ) ^ (-exponent).toNat = 2 ^ (-exponent).toNat * 5 ^ (-exponent).toNat := by
    rw [← mul_pow]
    norm_num
  simp only [exactDecimal, Scientific.magnitude, Nat.pow_eq, zpow_eq_div_pow 2 exponent,
    zpow_neg, zpow_natCast, ten]
  push_cast
  field_simp

/-- A candidate has been checked to be nearest to the double. -/
theorem nearest_candidate? {numerator denominator : Nat} {place : Int} {found : Scientific}
    (candidate : candidate? number negative numerator denominator place = some found) :
    found.nearest = number ∧ found.negative = negative := by
  simp only [candidate?] at candidate
  generalize gridNeighbours numerator denominator place = grid at candidate
  obtain ⟨lower, upper, upperNearer⟩ := grid
  cases upperNearer
  all_goals
    simp only [Bool.false_eq_true, if_false, if_true] at candidate
    split at candidate
    next nearest =>
      cases candidate
      exact ⟨nearest, rfl⟩
    next =>
      split at candidate
      next nearest =>
        cases candidate
        exact ⟨nearest, rfl⟩
      next => cases candidate

/-- The shortest decimal is the canonical form of a number that is nearest to the double. -/
theorem exists_shortestFinite_eq_canonical
    (finite : number.view = .finite negative significand exponent) :
    ∃ decimal : Scientific,
      number.shortestFinite negative significand exponent = decimal.canonical ∧
        decimal.nearest = number ∧ decimal.negative = negative := by
  simp only [shortestFinite]
  split
  next zero =>
    subst zero
    have bits := eq_ofMagnitude_of_view finite
    rw [finiteMagnitude_zero (isFinite_of_view finite)] at bits
    exact ⟨{ negative, coefficient := 0, exponent := 0 }, rfl, bits.symm, rfl⟩
  next =>
    cases search : (List.range mostDigits).findSome? _ with
    | some found =>
        obtain ⟨count, -, candidate⟩ := List.exists_of_findSome?_eq_some search
        exact ⟨found, rfl, nearest_candidate? candidate⟩
    | none =>
        refine ⟨exactDecimal negative significand exponent, rfl, ?_, rfl⟩
        rw [Scientific.nearest_eq_ofMagnitude (isFinite_of_view finite)
          (magnitude_exactDecimal negative significand exponent)]
        exact (eq_ofMagnitude_of_view finite).symm

/-- A finite double is the one nearest to its shortest decimal. -/
theorem nearest_shortestFinite (finite : number.view = .finite negative significand exponent) :
    (number.shortestFinite negative significand exponent).nearest = number := by
  obtain ⟨decimal, shortest, nearest, -⟩ := exists_shortestFinite_eq_canonical finite
  rw [shortest, Scientific.nearest_canonical, nearest]

/-- The shortest decimal of a finite double has its sign. -/
theorem shortestFinite_negative (finite : number.view = .finite negative significand exponent) :
    (number.shortestFinite negative significand exponent).negative = negative := by
  obtain ⟨decimal, shortest, -, sign⟩ := exists_shortestFinite_eq_canonical finite
  rw [shortest, Scientific.canonical_negative, sign]

/-- A finite double is written as its shortest decimal. -/
theorem render_of_view (finite : number.view = .finite negative significand exponent)
    (words : SpecialWords) (write : Scientific → Text) :
    number.render words write = write (number.shortestFinite negative significand exponent) := by
  simp only [render, shortest, finite]

end Binary64

end SqlDump
