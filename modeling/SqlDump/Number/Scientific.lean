import SqlDump.Number.Binary64
import SqlDump.Number.Digit

/-!
# Decimal numbers

A decimal number is a coefficient times a power of ten, with a sign that zero
keeps too. It is read from the notation of floating point numerals, written with
a decimal point and no exponent, or written with an exponent where its leading
digit is far from the point. The nearest double depends on the sign and on the
rational number alone, because it is taken from the canonical form.
-/

namespace SqlDump

/-- The number `coefficient * 10 ^ exponent` with a sign. -/
structure Scientific where
  negative : Bool
  coefficient : Nat
  exponent : Int
  deriving DecidableEq, Repr

namespace Scientific

/-- Drops up to `fuel` factors of ten from a coefficient into the exponent. -/
def dropTens : (fuel : Nat) → Nat → Int → Nat × Int
  | 0, coefficient, exponent => (coefficient, exponent)
  | fuel + 1, coefficient, exponent =>
      if coefficient % 10 = 0 then dropTens fuel (coefficient / 10) (exponent + 1)
      else (coefficient, exponent)

/-- The same number with the smallest coefficient; zero has the exponent zero. -/
def canonical (number : Scientific) : Scientific :=
  if number.coefficient = 0 then { number with exponent := 0 }
  else
    let (coefficient, exponent) :=
      dropTens (Nat.log2 number.coefficient) number.coefficient number.exponent
    { number with coefficient, exponent }

/-- A quotient equal to the magnitude of a number. -/
def quotient (number : Scientific) : Nat × Nat :=
  (number.coefficient * Nat.pow 10 number.exponent.toNat, Nat.pow 10 (-number.exponent).toNat)

/-- A power of ten beyond every double. -/
def hugeExponent : Int := 310

/-- A power of ten below which every magnitude is nearest to zero. -/
def tinyExponent : Int := -330

/-- The double nearest to a number. Numbers far outside the range of doubles are
recognised by the place of their leading digit. -/
def nearest (number : Scientific) : Binary64 :=
  let reduced := number.canonical
  if reduced.coefficient = 0 then .nearest reduced.negative 0 1
  else
    let place := ((digits reduced.coefficient).length : Int) + reduced.exponent
    if place > hugeExponent then .infinity reduced.negative
    else if place < tinyExponent then .nearest reduced.negative 0 1
    else
      let (numerator, denominator) := reduced.quotient
      .nearest reduced.negative numerator denominator

def leadingExponent (number : Scientific) : Int :=
  ((digits number.coefficient).length : Int) + number.exponent - 1

/-- The sign of a number in front of a text. -/
def withSign (negative : Bool) (body : Text) : Text :=
  if negative then .char '-' :: body else body

/-- The digits before and after the decimal point, at least one on each side. -/
def positionalDigits (number : Scientific) : List Digit × List Digit :=
  let body := digits number.coefficient
  if 0 ≤ number.exponent then (body ++ Digit.zeros number.exponent.toNat, Digit.zeros 1)
  else
    let places := (-number.exponent).toNat
    if places < body.length then
      (body.take (body.length - places), body.drop (body.length - places))
    else (Digit.zeros 1, Digit.zeros (places - body.length) ++ body)

/-- A number with a decimal point and no exponent. -/
def positional (number : Scientific) : Text :=
  let (whole, fraction) := number.positionalDigits
  withSign number.negative (Digit.text whole ++ .char '.' :: Digit.text fraction)

/-- The digits of an exponent, at least two. -/
def exponentDigits (exponent : Int) : List Digit :=
  let body := digits exponent.natAbs
  Digit.zeros (2 - body.length) ++ body

/-- A number with one digit before the point and an exponent. -/
def exponential (number : Scientific) : Text :=
  let body := digits number.coefficient
  let exponent := number.leadingExponent
  let fraction := if body.length ≤ 1 then [] else .char '.' :: Digit.text (body.drop 1)
  withSign number.negative <|
    Digit.text (body.take 1) ++ fraction ++ .char 'e' ::
      (.char (if exponent < 0 then '-' else '+') :: Digit.text (exponentDigits exponent))

/-- The leading exponents that are written without an exponent, and the first one
above them. -/
def positionalRange : Int × Int := (-4, 16)

/-- A number without an exponent where its leading digit is near the point. -/
def short (number : Scientific) : Text :=
  if positionalRange.1 ≤ number.leadingExponent ∧ number.leadingExponent < positionalRange.2 then
    number.positional
  else number.exponential

end Scientific

/-! ## Reading floating point numerals -/

/-- What a floating point numeral denotes. -/
inductive FloatNumeral where
  | finite (number : Scientific)
  | infinite (negative : Bool)
  | undefined
  deriving DecidableEq, Repr

namespace FloatNumeral

/-- A text with its ASCII letters small. -/
def small (content : Text) : Text :=
  content.map fun
    | .char value => .char value.toLower
    | surrogate => surrogate

/-- Whether every underscore stands between two digits. -/
def underscoresSeparate : (previous : Bool) → Text → Bool
  | _, [] => true
  | previous, symbol :: rest =>
      if symbol = .char '_' then
        previous && (match rest with
          | next :: _ => next.digit?.isSome
          | [] => false) && underscoresSeparate false rest
      else underscoresSeparate symbol.digit?.isSome rest

/-- The exponent part of a numeral: nothing, or the letter, a sign and digits. -/
def exponentPart : Text → Option Int
  | [] => some 0
  | mark :: rest =>
      if mark = .char 'e' ∨ mark = .char 'E' then
        let (negative, rest) :=
          match rest with
          | .char '-' :: after => (true, after)
          | .char '+' :: after => (false, after)
          | _ => (false, rest)
        match digitRun Symbol.digit? rest with
        | ([], _) => none
        | (found, []) =>
            some (if negative then -(Digit.value found : Int) else (Digit.value found : Int))
        | (_, _ :: _) => none
      else none

/-- The digits, the point and the exponent of a numeral without sign and underscores. -/
def decimalPart (negative : Bool) (content : Text) : Option Scientific :=
  let (whole, rest) := digitRun Symbol.digit? content
  let (fraction, rest) :=
    match rest with
    | .char '.' :: after => digitRun Symbol.digit? after
    | _ => ([], rest)
  if whole.isEmpty && fraction.isEmpty then none
  else
    (exponentPart rest).map fun exponent =>
      { negative, coefficient := Digit.value (whole ++ fraction),
        exponent := exponent - (fraction.length : Int) }

/-- A numeral without blanks around it. -/
def read (content : Text) : Option FloatNumeral :=
  let (negative, body) :=
    match content with
    | .char '-' :: rest => (true, rest)
    | .char '+' :: rest => (false, rest)
    | _ => (false, content)
  let letters := small body
  if letters = text "inf" ∨ letters = text "infinity" then some (.infinite negative)
  else if letters = text "nan" then some .undefined
  else if underscoresSeparate false body then
    (decimalPart negative (body.filter (· ≠ .char '_'))).map .finite
  else none

/-- The double that a numeral denotes. -/
def nearest : FloatNumeral → Binary64
  | .finite number => number.nearest
  | .infinite negative => .infinity negative
  | .undefined => .undefined

end FloatNumeral

end SqlDump
