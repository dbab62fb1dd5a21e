import SqlDump.Number.Digit
import SqlDump.Text.Printable

/-!
# Quoted display

Messages show a text or octets between quotation marks. The mark is the single
quote, or the double one where the content has single quotes only. The mark, the
backslash and what cannot be shown are escaped; stray octets and lone surrogates
are shown by their place among the code points.
-/

namespace SqlDump.Quoted

/-- The hexadecimal digit of a number below sixteen, in small letters. -/
def hexDigit (number : Nat) : Symbol :=
  .char (if number < 10 then Char.ofNat (0x30 + number) else Char.ofNat (0x57 + number))

/-- A number in hexadecimal with exactly `width` digits. -/
def hexadecimal : (width : Nat) → Nat → Text
  | 0, _ => []
  | width + 1, number => hexadecimal width (number / 16) ++ [hexDigit (number % 16)]

/-- The quotation mark for content with the given quotes in it. -/
def mark (hasSingle hasDouble : Bool) : Char :=
  if hasSingle && !hasDouble then '"' else '\''

/-- An escape by code point, as short as the code point allows. -/
def codeEscape (code : Nat) : Text :=
  if code < 0x100 then text "\\x" ++ hexadecimal 2 code
  else if code < 0x10000 then text "\\u" ++ hexadecimal 4 code
  else text "\\U" ++ hexadecimal 8 code

/-- A character between the given quotation marks. -/
def showChar (quote value : Char) : Text :=
  if value = quote ∨ value = '\\' then [.char '\\', .char value]
  else if value = '\n' then text "\\n"
  else if value = '\r' then text "\\r"
  else if value = '\t' then text "\\t"
  else if isPrintable value then [.char value]
  else codeEscape value.toNat

/-- A symbol between the given quotation marks. -/
def showSymbol (quote : Char) : Symbol → Text
  | .char value => showChar quote value
  | surrogate@(.stray _) | surrogate@(.lone _) => codeEscape surrogate.place

def ofText (content : Text) : Text :=
  let quote := mark (content.contains (.char '\'')) (content.contains (.char '"'))
  .char quote :: content.flatMap (showSymbol quote) ++ [.char quote]

/-- An octet between the given quotation marks. -/
def showOctet (quote : Char) (octet : UInt8) : Text :=
  if octet.toNat < 0x80 ∧ octet.toNat ≠ 0x7F then showChar quote (Char.ofNat octet.toNat)
  else text "\\x" ++ hexadecimal 2 octet.toNat

/-- Octets between quotation marks, after the letter b. -/
def ofOctets (octets : Octets) : Text :=
  let quote := mark (octets.contains 0x27) (octets.contains 0x22)
  .char 'b' :: .char quote :: octets.flatMap (showOctet quote) ++ [.char quote]

end SqlDump.Quoted
