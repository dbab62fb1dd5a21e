import SqlDump.Number.Scientific

/-!
# The shortest decimal of a double

A finite double is shown with the fewest digits that read back as the same
double. Of two candidates with that many digits the nearer one is shown, and of
two equally near ones the even one. The search tries one digit, then two, and so
on; on each grid it tests the two neighbours of the value. Seventeen digits
always suffice; the exact decimal value stands behind the search.
-/

namespace SqlDump

namespace Binary64

/-- The least power of ten above a positive quotient. -/
def decimalScale (numerator denominator : Nat) : Int :=
  if denominator ≤ numerator then ((digits (numerator / denominator)).length : Int)
  else 1 - ((digits ((denominator - 1) / numerator)).length : Int)

/-- The two neighbours of a quotient on the grid of multiples of `10 ^ exponent`,
and whether the upper one is the nearer; an equal distance favours the even one. -/
def gridNeighbours (numerator denominator : Nat) (exponent : Int) : Nat × Nat × Bool :=
  let scaled := numerator * Nat.pow 10 (-exponent).toNat
  let unit := denominator * Nat.pow 10 exponent.toNat
  let lower := scaled / unit
  let remainder := scaled % unit
  (lower, lower + 1, 2 * remainder > unit || (2 * remainder = unit && lower % 2 = 1))

/-- The candidate on a grid that reads back as the double. -/
def candidate? (number : Binary64) (negative : Bool) (numerator denominator : Nat)
    (exponent : Int) : Option Scientific :=
  let (lower, upper, upperNearer) := gridNeighbours numerator denominator exponent
  let below : Scientific := { negative, coefficient := lower, exponent }
  let above : Scientific := { negative, coefficient := upper, exponent }
  let (first, second) := if upperNearer then (above, below) else (below, above)
  if first.nearest = number then some first
  else if second.nearest = number then some second
  else none

/-- The decimal expansion of a finite double, in full. -/
def exactDecimal (negative : Bool) (significand : Nat) (exponent : Int) : Scientific :=
  { negative
    coefficient := significand * Nat.pow 2 exponent.toNat * Nat.pow 5 (-exponent).toNat
    exponent := -((-exponent).toNat : Int) }

/-- The most digits that the search tries. -/
def mostDigits : Nat := 17

/-- The shortest decimal of a finite double. -/
def shortestFinite (number : Binary64) (negative : Bool) (significand : Nat) (exponent : Int) :
    Scientific :=
  if significand = 0 then { negative, coefficient := 0, exponent := 0 }
  else
    let (numerator, denominator) := quotient significand exponent
    let scale := decimalScale numerator denominator
    let found := (List.range mostDigits).findSome? fun count =>
      candidate? number negative numerator denominator (scale - (count + 1 : Nat))
    (found.getD (exactDecimal negative significand exponent)).canonical

/-- What the shortest numeral of a double denotes. -/
def shortest (number : Binary64) : FloatNumeral :=
  match number.view with
  | .finite negative significand exponent =>
      .finite (number.shortestFinite negative significand exponent)
  | .infinite negative => .infinite negative
  | .undefined => .undefined

/-- The words for infinity and for a double that is no number. -/
structure SpecialWords where
  infinity : String
  undefined : String
  deriving DecidableEq, Repr

/-- The words in the display of a number. -/
def displayWords : SpecialWords := { infinity := "inf", undefined := "nan" }

/-- The shortest numeral of a double, finite ones in a given notation. -/
def render (words : SpecialWords) (finite : Scientific → Text) (number : Binary64) : Text :=
  match number.shortest with
  | .finite decimal => finite decimal
  | .infinite negative => Scientific.withSign negative (text words.infinity)
  | .undefined => text words.undefined

/-- The shortest numeral of a double, with an exponent where it is far from one. -/
def display (number : Binary64) : Text :=
  number.render displayWords Scientific.short

/-- The shortest numeral of a double without an exponent. -/
def positional (number : Binary64) : Text :=
  number.render displayWords Scientific.positional

end Binary64

end SqlDump
