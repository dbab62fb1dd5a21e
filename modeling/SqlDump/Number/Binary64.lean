/-!
# Double precision numbers

A double is its 64 bits. Its value is read off them exactly: a finite double is
`significand * 2 ^ exponent` with a sign. The nearest double of a quotient of
natural numbers is found in exact arithmetic, with ties to the even neighbour
and overflow to infinity.
-/

namespace SqlDump

/-- A double precision number. -/
structure Binary64 where
  bits : UInt64
  deriving DecidableEq, Repr

namespace Binary64

/-- What the bits of a double stand for. -/
inductive View where
  | finite (negative : Bool) (significand : Nat) (exponent : Int)
  | infinite (negative : Bool)
  | undefined
  deriving DecidableEq, Repr

/-- The weight of the sign bit. -/
def signUnit : Nat := 0x8000000000000000

/-- The weight of the lowest of the eleven bits of the exponent: the number of
fractions, and the least significand with a leading one. -/
def exponentUnit : Nat := 0x10000000000000

def isNegative (number : Binary64) : Bool :=
  number.bits.toNat / signUnit = 1

def exponentBits (number : Binary64) : Nat :=
  number.bits.toNat / exponentUnit % 0x800

def fractionBits (number : Binary64) : Nat :=
  number.bits.toNat % exponentUnit

/-- The value of a double. -/
def view (number : Binary64) : View :=
  if number.exponentBits = 0x7FF then
    if number.fractionBits = 0 then .infinite number.isNegative else .undefined
  else if number.exponentBits = 0 then .finite number.isNegative number.fractionBits (-1074)
  else
    .finite number.isNegative (exponentUnit + number.fractionBits)
      ((number.exponentBits : Int) - 1075)

/-- A quotient equal to the magnitude of a finite double. -/
def quotient (significand : Nat) (exponent : Int) : Nat × Nat :=
  (significand * Nat.pow 2 exponent.toNat, Nat.pow 2 (-exponent).toNat)

def isUndefined (number : Binary64) : Bool :=
  number.view = .undefined

def isZero (number : Binary64) : Bool :=
  number.exponentBits = 0 && number.fractionBits = 0

/-- Equality of values: a double that is no number equals nothing, and the two
zeros are equal. -/
def equals (left right : Binary64) : Bool :=
  !left.isUndefined && !right.isUndefined && (left = right || (left.isZero && right.isZero))

/-- The double with a sign and the 63 bits below it. -/
def ofMagnitude (negative : Bool) (magnitude : Nat) : Binary64 :=
  { bits := UInt64.ofNat ((if negative then signUnit else 0) + magnitude) }

/-- The bits of infinity below the sign. -/
def infiniteMagnitude : Nat := 0x7FF * exponentUnit

def infinity (negative : Bool) : Binary64 :=
  ofMagnitude negative infiniteMagnitude

def undefined : Binary64 :=
  ofMagnitude false (infiniteMagnitude + exponentUnit / 2)

/-- A quotient rounded to a whole number, a half to the even neighbour. -/
def roundQuotient (numerator denominator : Nat) : Nat :=
  let quotient := numerator / denominator
  let remainder := numerator % denominator
  if 2 * remainder < denominator then quotient
  else if 2 * remainder > denominator then quotient + 1
  else if quotient % 2 = 0 then quotient
  else quotient + 1

/-- The quotient `numerator / denominator` divided by `2 ^ exponent`. -/
def scaleBinary (numerator denominator : Nat) (exponent : Int) : Nat × Nat :=
  (numerator * Nat.pow 2 (-exponent).toNat, denominator * Nat.pow 2 exponent.toNat)

/-- The exponent of the last place of the doubles around a positive quotient. -/
def placeExponent (numerator denominator : Nat) : Int :=
  let estimate : Int := (Nat.log2 numerator : Int) - (Nat.log2 denominator : Int) - 53
  let (scaled, unit) := scaleBinary numerator denominator estimate
  max (-1074) (if scaled ≥ 2 * exponentUnit * unit then estimate + 1 else estimate)

/-- The bits below the sign of the double nearest to a quotient. The significand
carries into the exponent where rounding reaches the next power of two. -/
def nearestMagnitude (numerator denominator : Nat) : Nat :=
  if numerator = 0 then 0
  else
    let exponent := placeExponent numerator denominator
    let (scaled, unit) := scaleBinary numerator denominator exponent
    min infiniteMagnitude ((exponent + 1074).toNat * exponentUnit + roundQuotient scaled unit)

/-- The double nearest to a quotient with a sign. -/
def nearest (negative : Bool) (numerator denominator : Nat) : Binary64 :=
  ofMagnitude negative (nearestMagnitude numerator denominator)

end Binary64

end SqlDump
