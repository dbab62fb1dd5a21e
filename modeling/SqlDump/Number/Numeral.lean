import SqlDump.Number.Digit
import SqlDump.Text.Blank
import SqlDump.Text.Quoted

/-!
# Integer numerals

A numeral is an optional sign and decimal digits, with single underscores
allowed between digits and blanks around the whole. Conversions between
numerals and numbers refuse more than 4300 digits. Padding counts the sign, so
that negative numbers get fewer zeros.
-/

namespace SqlDump

/-- What a symbol or an octet means inside a numeral. -/
inductive Glyph where
  | digit (value : Digit)
  | underscore
  | plus
  | minus
  | blank
  | other
  deriving DecidableEq, Repr

namespace Glyph

def digit? : Glyph → Option Digit
  | .digit value => some value
  | _ => none

/-- Whether a glyph can stand between the ends of a numeral: a digit or an underscore. -/
def isInner : Glyph → Bool
  | .digit _ => true
  | .underscore => true
  | _ => false

/-- The glyph of a symbol. The information separators are blanks of a text, but
not of a numeral. -/
def ofSymbol (symbol : Symbol) : Glyph :=
  if symbol = .char '_' then .underscore
  else if symbol = .char '+' then .plus
  else if symbol = .char '-' then .minus
  else
    match symbol.digit? with
    | some value => .digit value
    | none =>
        if symbol.isBlank ∧ ¬(0x1C ≤ symbol.place ∧ symbol.place ≤ 0x1F) then .blank else .other

/-- The glyph of an octet, which is read as ASCII. -/
def ofOctet (octet : UInt8) : Glyph :=
  if octet = 0x5F then .underscore
  else if octet = 0x2B then .plus
  else if octet = 0x2D then .minus
  else
    match octetDigit? octet with
    | some value => .digit value
    | none => if isBlankOctet octet then .blank else .other

end Glyph

namespace Numeral

/-- The longest numeral that is converted. -/
def limit : Nat := 4300

/-- Why a numeral cannot be converted. -/
inductive Error where
  /-- The glyphs are no numeral; `shown` is their quoted display. -/
  | malformed (shown : Text)
  /-- The numeral has too many digits to be read. -/
  | tooManyDigits (count : Nat)
  /-- The number has too many digits to be written. -/
  | tooLong
  deriving DecidableEq, Repr

/-- The number of symbols that a message shows of a malformed numeral. -/
def shownLength : Nat := 200

def Error.message : Error → Text
  | .malformed shown =>
      text "invalid literal for int() with base 10: " ++ shown.take shownLength
  | .tooManyDigits count =>
      text "Exceeds the limit (4300 digits) for integer string conversion: value has " ++
        Digit.text (digits count) ++
        text " digits; use sys.set_int_max_str_digits() to increase the limit"
  | .tooLong =>
      text "Exceeds the limit (4300 digits) for integer string conversion; " ++
        text "use sys.set_int_max_str_digits() to increase the limit"

/-- The number of digits, with the sign given. -/
def signed (negative : Bool) (digits : List Digit) : Int :=
  if negative then -(Digit.value digits : Int) else (Digit.value digits : Int)

/-- Whether the glyphs between the ends of a numeral have their underscores
between digits only. -/
def underscoresSeparate : List Glyph → Bool
  | [] => true
  | .digit _ :: .underscore :: .digit value :: rest =>
      underscoresSeparate (.digit value :: rest)
  | .digit _ :: .digit value :: rest => underscoresSeparate (.digit value :: rest)
  | [.digit _] => true
  | _ => false

/-- The number that glyphs denote; `shown` is their quoted display. -/
def readGlyphs (shown : Text) (glyphs : List Glyph) : Except Error Int :=
  let unpadded := glyphs.dropWhile (· = .blank)
  let (negative, body) :=
    match unpadded with
    | .plus :: rest => (false, rest)
    | .minus :: rest => (true, rest)
    | _ => (false, unpadded)
  let inner := body.takeWhile Glyph.isInner
  let digits := inner.filterMap Glyph.digit?
  if inner.isEmpty || !underscoresSeparate inner then .error (.malformed shown)
  else if digits.length > limit then .error (.tooManyDigits digits.length)
  else if (body.dropWhile Glyph.isInner).all (· = .blank) then .ok (signed negative digits)
  else .error (.malformed shown)

def ofText (content : Text) : Except Error Int :=
  readGlyphs (Quoted.ofText content) (content.map Glyph.ofSymbol)

def ofOctets (octets : Octets) : Except Error Int :=
  readGlyphs (Quoted.ofOctets octets) (octets.map Glyph.ofOctet)

/-- The numeral of an integer, of any length. -/
def plain (number : Int) : Text :=
  if number < 0 then .char '-' :: Digit.text (digits number.natAbs)
  else Digit.text (digits number.natAbs)

/-- The numeral of an integer with zeros between its sign and its digits up to a width. -/
def padded (width : Nat) (number : Int) : Text :=
  let body := digits number.natAbs
  if number < 0 then
    .char '-' :: Digit.text (Digit.zeros (width - 1 - body.length) ++ body)
  else Digit.text (Digit.zeros (width - body.length) ++ body)

/-- The numeral of an integer within the limit. -/
def ofInt (number : Int) : Except Error Text :=
  if (digits number.natAbs).length > limit then .error .tooLong else .ok (plain number)

/-- The padded numeral of an integer within the limit. -/
def ofIntPadded (width : Nat) (number : Int) : Except Error Text :=
  if (digits number.natAbs).length > limit then .error .tooLong else .ok (padded width number)

def ofEachOctets (parts : List Octets) : Except Error (List Int) :=
  parts.mapM ofOctets

end Numeral

end SqlDump
