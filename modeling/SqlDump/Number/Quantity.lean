import SqlDump.Number.DecimalNumber

/-!
# Quantities

Integers, doubles and decimal numbers are compared by their value, whatever their
type. Each of them is a decimal number exactly: a double is one because a half is
five tenths. Decimal numbers are compared by the place of their leading digit
first, so that a great exponent costs nothing.
-/

namespace SqlDump

namespace Scientific

/-- The decimal number `significand * 2 ^ exponent` with a sign. -/
def ofBinary (negative : Bool) (significand : Nat) (exponent : Int) : Scientific :=
  { negative, coefficient := significand * Nat.pow 2 exponent.toNat * Nat.pow 5 (-exponent).toNat
    exponent := min exponent 0 }

def ofInt (number : Int) : Scientific :=
  { negative := number < 0, coefficient := number.natAbs, exponent := 0 }

def equals (left right : Scientific) : Bool :=
  let left := left.canonical
  let right := right.canonical
  left.coefficient = right.coefficient ∧ left.exponent = right.exponent ∧
    (left.coefficient = 0 ∨ left.negative = right.negative)

/-- Whether the magnitude of a number is less than that of another one. Magnitudes
with their leading digits in one place are compared in units of the lower last place. -/
def smaller (left right : Scientific) : Bool :=
  if right.coefficient = 0 then false
  else if left.coefficient = 0 then true
  else if left.leadingExponent = right.leadingExponent then
    let place := min left.exponent right.exponent
    left.coefficient * Nat.pow 10 (left.exponent - place).toNat <
      right.coefficient * Nat.pow 10 (right.exponent - place).toNat
  else left.leadingExponent < right.leadingExponent

def lessThan (left right : Scientific) : Bool :=
  let leftNegative := left.negative && left.coefficient ≠ 0
  let rightNegative := right.negative && right.coefficient ≠ 0
  match leftNegative, rightNegative with
  | true, true => right.smaller left
  | true, false => true
  | false, true => false
  | false, false => left.smaller right

end Scientific

/-- A number of any type. -/
inductive Quantity where
  | finite (number : Scientific)
  | infinite (negative : Bool)
  | undefined
  deriving DecidableEq, Repr

namespace Quantity

def ofInt (number : Int) : Quantity :=
  .finite (.ofInt number)

def ofBinary64 (number : Binary64) : Quantity :=
  match number.view with
  | .finite negative significand exponent => .finite (.ofBinary negative significand exponent)
  | .infinite negative => .infinite negative
  | .undefined => .undefined

def ofDecimal : DecimalNumber → Quantity
  | .finite number => .finite number
  | .infinite negative => .infinite negative
  | .undefined _ _ _ => .undefined

def equals : Quantity → Quantity → Bool
  | .finite left, .finite right => left.equals right
  | .infinite left, .infinite right => left = right
  | _, _ => false

/-- Whether a quantity is less than another one. An undefined one is neither less
nor greater. -/
def lessThan : Quantity → Quantity → Bool
  | .finite left, .finite right => left.lessThan right
  | .finite _, .infinite negative => !negative
  | .infinite negative, .finite _ => negative
  | .infinite left, .infinite right => left && !right
  | _, _ => false

end Quantity

end SqlDump
