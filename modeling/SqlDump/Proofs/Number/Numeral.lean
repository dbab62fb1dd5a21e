import Mathlib.Data.List.Induction
import SqlDump.Number.Numeral
import SqlDump.Number.Scientific

/-!
# Writing and reading numerals

A numeral consists of digits, with a dash in front where the number is negative.
A padded numeral of a number that fits its width has exactly that width, and its
digits read back as the number.

Main statements: `mem_padded` says which symbols a padded numeral has,
`exists_digits_padded` which digits, and `digitRun_text` reads digits up to a
symbol that is none.
-/

namespace SqlDump

/-! ## Digits -/

@[simp] theorem digits_ne_nil (number : Nat) : digits number ≠ [] := by
  by_cases small : number < 10
  · simp [digits_of_lt small]
  · simp [digits_of_le (Nat.le_of_not_lt small)]

theorem length_digits_pos (number : Nat) : 0 < (digits number).length :=
  List.length_pos_iff.mpr (digits_ne_nil number)

/-- A number has no more digits than the width it fits. -/
theorem length_digits_le {width number : Nat} (fits : number < Nat.pow 10 (width + 1)) :
    (digits number).length ≤ width + 1 := by
  induction width generalizing number with
  | zero =>
      rw [digits_of_lt (by simpa using fits)]
      simp
  | succ width hypothesis =>
      by_cases small : number < 10
      · simp [digits_of_lt small]
      · have tenth : number / 10 < Nat.pow 10 (width + 1) := by
          have step : Nat.pow 10 (width + 1 + 1) = Nat.pow 10 (width + 1) * 10 := Nat.pow_succ ..
          omega
        rw [digits_of_le (Nat.le_of_not_lt small)]
        simpa using hypothesis tenth

namespace Digit

/-- The symbol of a digit is that digit and nothing else. -/
@[simp] theorem digit?_symbol (digit : Digit) : digit.symbol.digit? = some digit := by
  revert digit
  decide

@[simp] theorem text_nil : text [] = [] := rfl

@[simp] theorem text_cons (digit : Digit) (rest : List Digit) :
    text (digit :: rest) = digit.symbol :: text rest := rfl

@[simp] theorem text_eq_nil_iff {found : List Digit} : text found = [] ↔ found = [] :=
  List.map_eq_nil_iff

theorem mem_text {symbol : Symbol} {found : List Digit} (member : symbol ∈ text found) :
    ∃ digit : Digit, symbol = digit.symbol := by
  obtain ⟨digit, _, same⟩ := List.mem_map.mp member
  exact ⟨digit, same.symm⟩

/-- Digits start with no symbol that is no digit. -/
theorem text_append_ne_cons {found : List Digit} (nonempty : found ≠ []) {symbol : Symbol}
    (noDigit : symbol.digit? = none) (more rest : Text) : text found ++ more ≠ symbol :: rest := by
  cases found with
  | nil => exact absurd rfl nonempty
  | cons first others =>
      intro same
      rw [text_cons, List.cons_append] at same
      rw [← (List.cons.inj same).1, digit?_symbol] at noDigit
      cases noDigit

/-- Digits denote a number that fits their places. -/
theorem value_lt (found : List Digit) : value found < Nat.pow 10 found.length := by
  induction found using List.reverseRecOn with
  | nil => decide
  | append_singleton leading last hypothesis =>
      have place := last.isLt
      rw [value_append_singleton, List.length_append, List.length_singleton, Nat.pow_eq,
        Nat.pow_succ]
      rw [Nat.pow_eq] at hypothesis
      omega

/-- Zeros in front of digits do not change their value. -/
theorem value_zeros_append (count : Nat) (found : List Digit) :
    value (zeros count ++ found) = value found := by
  induction count with
  | zero => rfl
  | succ count hypothesis =>
      have leading : value (ofNat 0 :: (zeros count ++ found)) = value (zeros count ++ found) := rfl
      exact leading.trans hypothesis

/-- Digits behind a point; without digits there is no point. -/
def fractionText (fraction : List Digit) : Text :=
  if fraction = [] then [] else .char '.' :: text fraction

theorem fractionText_of_ne_nil {fraction : List Digit} (parted : fraction ≠ []) :
    fractionText fraction = .char '.' :: text fraction :=
  if_neg parted

/-- A fraction is no digit of what stands in front of it. -/
theorem digit?_head?_fractionText_append (fraction : List Digit) {rest : Text}
    (ends : ∀ symbol ∈ rest.head?, symbol.digit? = none) :
    ∀ symbol ∈ (fractionText fraction ++ rest).head?, symbol.digit? = none := by
  by_cases whole : fraction = []
  · simpa [fractionText, whole] using ends
  · rw [fractionText_of_ne_nil whole, List.cons_append]
    rintro symbol ⟨⟩
    decide

theorem digit?_head?_fractionText (fraction : List Digit) :
    ∀ symbol ∈ (fractionText fraction).head?, symbol.digit? = none := by
  rw [← List.append_nil (fractionText fraction)]
  exact digit?_head?_fractionText_append fraction (by simp)

end Digit

section Runs

variable {α : Type} {digit? : α → Option Digit}

/-- Items that are digits are read up to the first one that is none. -/
theorem digitRun_append {word rest : List α} {found : List Digit}
    (spelled : word.map digit? = found.map some)
    (ends : ∀ item ∈ rest.head?, digit? item = none) :
    digitRun digit? (word ++ rest) = (found, rest) := by
  induction word generalizing found with
  | nil =>
      rw [List.map_eq_nil_iff.mp spelled.symm, List.nil_append]
      cases rest with
      | nil => rfl
      | cons item others => simp [digitRun, ends item rfl]
  | cons item others hypothesis =>
      cases found with
      | nil => cases spelled
      | cons digit found =>
          simp only [List.map_cons, List.cons.injEq] at spelled
          simp [digitRun, spelled.1, hypothesis spelled.2]

/-- A list is the items of its run of digits and what follows them. -/
theorem exists_eq_append_of_digitRun (digit? : α → Option Digit) (items : List α) :
    ∃ word, items = word ++ (digitRun digit? items).2 ∧
      word.map digit? = (digitRun digit? items).1.map some ∧
        ∀ item ∈ (digitRun digit? items).2.head?, digit? item = none := by
  induction items with
  | nil => exact ⟨[], rfl, rfl, by simp⟩
  | cons item others hypothesis =>
      cases digit : digit? item with
      | none => exact ⟨[], by simp [digitRun, digit]⟩
      | some value =>
          obtain ⟨word, split, spelled, ends⟩ := hypothesis
          simp only [digitRun, digit]
          exact ⟨item :: word, by rw [List.cons_append, ← split], by simp [digit, spelled], ends⟩

end Runs

/-- Digits are read up to the first symbol that is none. -/
theorem digitRun_text (found : List Digit) {rest : Text}
    (ends : ∀ symbol ∈ rest.head?, symbol.digit? = none) :
    digitRun Symbol.digit? (Digit.text found ++ rest) = (found, rest) :=
  digitRun_append (by simp [Digit.text]) ends

namespace Numeral

/-! ## Numerals -/

/-- A numeral is its digits behind the sign of its number. -/
theorem plain_eq_withSign (number : Int) :
    plain number = Scientific.withSign (number < 0) (Digit.text (digits number.natAbs)) := by
  simp [plain, Scientific.withSign]

theorem plain_ne_nil (number : Int) : plain number ≠ [] := by
  simp only [plain]
  split <;> simp

theorem mem_plain {symbol : Symbol} {number : Int} (member : symbol ∈ plain number) :
    symbol = .char '-' ∨ ∃ digit : Digit, symbol = digit.symbol := by
  simp only [plain] at member
  split at member
  next =>
    rcases List.mem_cons.mp member with dash | inDigits
    · exact .inl dash
    · exact .inr (Digit.mem_text inDigits)
  next => exact .inr (Digit.mem_text member)

theorem mem_padded {symbol : Symbol} {width : Nat} {number : Int}
    (member : symbol ∈ padded width number) :
    symbol = .char '-' ∨ ∃ digit : Digit, symbol = digit.symbol := by
  simp only [padded] at member
  split at member
  next =>
    rcases List.mem_cons.mp member with dash | inDigits
    · exact .inl dash
    · exact .inr (Digit.mem_text inDigits)
  next => exact .inr (Digit.mem_text member)

/-- A number that is not negative and fits a width is written with as many digits,
which denote it. -/
theorem exists_digits_padded (width : Nat) {number : Int} (low : 0 ≤ number)
    (fits : number < (Nat.pow 10 (width + 1) : Nat)) :
    ∃ found : List Digit, padded (width + 1) number = Digit.text found ∧
      found.length = width + 1 ∧ (Digit.value found : Int) = number := by
  have short : (digits number.natAbs).length ≤ width + 1 := length_digits_le (by omega)
  refine ⟨Digit.zeros (width + 1 - (digits number.natAbs).length) ++ digits number.natAbs,
    ?_, ?_, ?_⟩
  · simp only [padded]
    rw [if_neg (by omega)]
  · simp only [Digit.zeros, List.length_append, List.length_replicate]
    omega
  · rw [Digit.value_zeros_append, Digit.value_digits]
    omega

/-- A padded numeral begins with a dash, or it consists of digits that denote its number. -/
theorem padded_cases (width : Nat) (number : Int) :
    (∃ rest, padded width number = .char '-' :: rest) ∨
      ∃ found : List Digit, padded width number = Digit.text found ∧ width ≤ found.length ∧
        (Digit.value found : Int) = number := by
  by_cases negative : number < 0
  · exact .inl ⟨_, if_pos negative⟩
  · refine .inr ⟨_, if_neg negative, ?_, ?_⟩
    · simp only [Digit.zeros, List.length_append, List.length_replicate]
      omega
    · rw [Digit.value_zeros_append, Digit.value_digits]
      omega

/-- A number that is not negative is written with its digits. -/
theorem plain_of_nonneg {number : Int} (low : 0 ≤ number) :
    plain number = Digit.text (digits number.natAbs) := by
  rw [plain, if_neg (by omega)]

theorem ofIntPadded_eq_ok {width : Nat} {number : Int} {written : Text}
    (made : ofIntPadded width number = .ok written) : written = padded width number := by
  simp only [ofIntPadded] at made
  split at made
  next => cases made
  next => exact (Except.ok.inj made).symm

theorem ofInt_eq_ok {number : Int} {written : Text} (made : ofInt number = .ok written) :
    written = plain number := by
  simp only [ofInt] at made
  split at made
  next => cases made
  next => exact (Except.ok.inj made).symm

theorem ofIntPadded_of_le {width : Nat} {number : Int}
    (short : (digits number.natAbs).length ≤ limit) :
    ofIntPadded width number = .ok (padded width number) := by
  rw [ofIntPadded, if_neg (Nat.not_lt.mpr short)]

theorem ofInt_of_le {number : Int} (short : (digits number.natAbs).length ≤ limit) :
    ofInt number = .ok (plain number) := by
  rw [ofInt, if_neg (Nat.not_lt.mpr short)]

/-- A number below a million has few digits. -/
theorem length_digits_le_limit {number : Int} (fits : number.natAbs < 1000000) :
    (digits number.natAbs).length ≤ limit := by
  have short : (digits number.natAbs).length ≤ 5 + 1 := length_digits_le fits
  have underLimit : 5 + 1 ≤ limit := by decide
  exact Nat.le_trans short underLimit

/-- A number of few digits can be written with padding. -/
theorem ofIntPadded_of_lt {width : Nat} {number : Int} (low : 0 ≤ number)
    (fits : number < 1000000) : ofIntPadded width number = .ok (padded width number) :=
  ofIntPadded_of_le (length_digits_le_limit (by omega))

end Numeral

end SqlDump
