import SqlDump.Text.Symbol

/-!
# Decimal digits

A number is written with ASCII digits and read with the decimal digits of every
script (general category Nd of Unicode 14). Main statement: the digits of a
number have it as their value.
-/

namespace SqlDump

abbrev Digit := Fin 10

namespace Digit

/-- The last decimal digit of a number. -/
def ofNat (number : Nat) : Digit :=
  ⟨number % 10, Nat.mod_lt _ (by decide)⟩

/-- A number of zeros, which fill the places of a numeral. -/
def zeros (count : Nat) : List Digit :=
  List.replicate count (ofNat 0)

@[simp] theorem val_ofNat (number : Nat) : (ofNat number).val = number % 10 := rfl

def char (digit : Digit) : Char :=
  Char.ofNat (0x30 + digit.val)

def symbol (digit : Digit) : Symbol :=
  .char digit.char

def text (digits : List Digit) : Text :=
  digits.map symbol

/-- The number that digits denote, most significant digit first. -/
def value (digits : List Digit) : Nat :=
  digits.foldl (fun number digit => number * 10 + digit.val) 0

end Digit

/-- Puts the digits of a number in front of others, in at most `fuel + 1` steps. -/
def digitsOnto : (fuel : Nat) → Nat → List Digit → List Digit
  | 0, number, rest => Digit.ofNat number :: rest
  | fuel + 1, number, rest =>
      if number < 10 then Digit.ofNat number :: rest
      else digitsOnto fuel (number / 10) (Digit.ofNat number :: rest)

/-- The decimal digits of a number, most significant first; zero has one digit. -/
def digits (number : Nat) : List Digit :=
  digitsOnto number number []

theorem digitsOnto_append (fuel number : Nat) (rest : List Digit) :
    digitsOnto fuel number rest = digitsOnto fuel number [] ++ rest := by
  induction fuel generalizing number rest with
  | zero => simp [digitsOnto]
  | succ fuel hypothesis =>
      by_cases small : number < 10
      · simp [digitsOnto, small]
      · simp only [digitsOnto, small, if_false]
        rw [hypothesis, hypothesis (number / 10) [Digit.ofNat number]]
        simp

/-- Any sufficient number of steps gives the digits of a number. -/
theorem digitsOnto_eq_digits (fuel number : Nat) (enough : number ≤ fuel) :
    digitsOnto fuel number [] = digits number := by
  have general : ∀ (fuel other number : Nat), number ≤ fuel → number ≤ other →
      digitsOnto fuel number [] = digitsOnto other number [] := by
    intro fuel
    induction fuel with
    | zero =>
        intro other number bound _
        have isZero : number = 0 := by omega
        subst isZero
        cases other <;> simp [digitsOnto]
    | succ fuel hypothesis =>
        intro other number bound otherBound
        by_cases small : number < 10
        · cases other <;> simp [digitsOnto, small]
        · cases other with
          | zero => omega
          | succ other =>
              simp only [digitsOnto, small, if_false]
              rw [digitsOnto_append, digitsOnto_append other,
                hypothesis other (number / 10) (by omega) (by omega)]
  exact general fuel number number enough (Nat.le_refl number)

/-- A number below ten has one digit. -/
theorem digits_of_lt {number : Nat} (small : number < 10) :
    digits number = [Digit.ofNat number] := by
  cases number with
  | zero => rfl
  | succ number => simp [digits, digitsOnto, small]

/-- The digits of a larger number are those of its tenth and its last digit. -/
theorem digits_of_le {number : Nat} (large : 10 ≤ number) :
    digits number = digits (number / 10) ++ [Digit.ofNat number] := by
  cases number with
  | zero => omega
  | succ number =>
      have notSmall : ¬number + 1 < 10 := by omega
      rw [digits, digitsOnto, if_neg notSmall, digitsOnto_append,
        digitsOnto_eq_digits number _ (by omega)]

@[simp] theorem Digit.value_nil : Digit.value [] = 0 := rfl

@[simp] theorem Digit.value_append_singleton (leading : List Digit) (last : Digit) :
    Digit.value (leading ++ [last]) = Digit.value leading * 10 + last.val := by
  simp [Digit.value]

/-- The digits of a number have it as their value. -/
@[simp] theorem Digit.value_digits (number : Nat) : Digit.value (digits number) = number := by
  induction number using Nat.strongRecOn with
  | _ number hypothesis =>
      by_cases small : number < 10
      · rw [digits_of_lt small]
        simp [Digit.value]
        omega
      · have large : 10 ≤ number := by omega
        rw [digits_of_le large, Digit.value_append_singleton, hypothesis (number / 10) (by omega)]
        simp only [Digit.val_ofNat]
        omega

/-- The code points of the zeros of all scripts; the other digits of a script
follow its zero. -/
def zeroCodes : List Nat :=
  [0x30, 0x660, 0x6F0, 0x7C0, 0x966, 0x9E6, 0xA66, 0xAE6, 0xB66, 0xBE6, 0xC66, 0xCE6, 0xD66,
    0xDE6, 0xE50, 0xED0, 0xF20, 0x1040, 0x1090, 0x17E0, 0x1810, 0x1946, 0x19D0, 0x1A80, 0x1A90,
    0x1B50, 0x1BB0, 0x1C40, 0x1C50, 0xA620, 0xA8D0, 0xA900, 0xA9D0, 0xA9F0, 0xAA50, 0xABF0,
    0xFF10, 0x104A0, 0x10D30, 0x11066, 0x110F0, 0x11136, 0x111D0, 0x112F0, 0x11450, 0x114D0,
    0x11650, 0x116C0, 0x11730, 0x118E0, 0x11950, 0x11C50, 0x11D50, 0x11DA0, 0x16A60, 0x16AC0,
    0x16B50, 0x1D7CE, 0x1D7D8, 0x1D7E2, 0x1D7EC, 0x1D7F6, 0x1E140, 0x1E2F0, 0x1E950, 0x1FBF0]

/-- The decimal digit that a symbol is, in any script. -/
def Symbol.digit? : Symbol → Option Digit
  | .char value =>
      (zeroCodes.find? fun code => code ≤ value.toNat && value.toNat < code + 10).map
        fun code => Digit.ofNat (value.toNat - code)
  | .stray _ | .lone _ => none

/-- The decimal digit that an octet is in ASCII. -/
def octetDigit? (octet : UInt8) : Option Digit :=
  if 0x30 ≤ octet.toNat ∧ octet.toNat ≤ 0x39 then some (Digit.ofNat (octet.toNat - 0x30)) else none

/-- The digits that a list starts with, and what follows them. -/
def digitRun {α : Type} (digit? : α → Option Digit) : List α → List Digit × List α
  | [] => ([], [])
  | item :: rest =>
      match digit? item with
      | none => ([], item :: rest)
      | some digit =>
          let (digits, after) := digitRun digit? rest
          (digit :: digits, after)

@[simp] theorem digitRun_nil {α : Type} (digit? : α → Option Digit) :
    digitRun digit? [] = ([], []) := rfl

end SqlDump
