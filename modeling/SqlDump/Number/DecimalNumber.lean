import SqlDump.Number.Scientific

/-!
# Decimal numbers of a column

A DECIMAL column hands back decimal numbers with their own exponent, so that
trailing zeros are kept, and the special values of decimal arithmetic. The text
of a number is exact: it has an exponent where the coefficient was scaled up or
where more than six places would have to be filled with zeros.
-/

namespace SqlDump

/-- A decimal number or a special value; a payload is an additional number that
an undefined value carries. -/
inductive DecimalNumber where
  | finite (number : Scientific)
  | infinite (negative : Bool)
  | undefined (negative signaling : Bool) (payload : Nat)
  deriving DecidableEq, Repr

namespace DecimalNumber

/-- The least leading exponent that is written without an exponent. -/
def leastPositional : Int := -6

/-- A coefficient of which the last `places` digits stand after the point. -/
def pointed (body : List Digit) (places : Nat) : Text :=
  if places = 0 then Digit.text body
  else if places < body.length then
    Digit.text (body.take (body.length - places)) ++
      .char '.' :: Digit.text (body.drop (body.length - places))
  else text "0." ++ Digit.text (Digit.zeros (places - body.length) ++ body)

/-- A coefficient with one digit before the point and an exponent. -/
def exponential (body : List Digit) (exponent : Int) : Text :=
  let fraction := if body.length ≤ 1 then [] else .char '.' :: Digit.text (body.drop 1)
  Digit.text (body.take 1) ++ fraction ++ .char 'E' ::
    (.char (if exponent < 0 then '-' else '+') :: Digit.text (digits exponent.natAbs))

def display : DecimalNumber → Text
  | .finite number =>
      let body := digits number.coefficient
      Scientific.withSign number.negative <|
        if number.exponent ≤ 0 ∧ leastPositional ≤ number.leadingExponent then
          pointed body (-number.exponent).toNat
        else exponential body number.leadingExponent
  | .infinite negative => Scientific.withSign negative (text "Infinity")
  | .undefined negative signaling payload =>
      Scientific.withSign negative <|
        text (if signaling then "sNaN" else "NaN") ++
          (if payload = 0 then [] else Digit.text (digits payload))

end DecimalNumber

end SqlDump
