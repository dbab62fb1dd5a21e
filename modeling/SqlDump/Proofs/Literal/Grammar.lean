import SqlDump.Literal.Decode
import SqlDump.Proofs.Literal.Branches
import SqlDump.Proofs.Text.Language

/-!
# The grammar of literals

A literal is NULL, a number, or a body between quotes whose content is a moment or a time
span where the column asks for one. What counts as a digit, what may stand between digits,
which names numbers have and what may follow a clock is a matter of the dialect. The server's
dialect has ASCII digits and nothing besides; the reader's takes the digits of every script,
underscores between the digits of a number, the names of the numbers that are not finite, and a
newline behind a moment or a span. What the reader's dialect adds can be seen on the
symbols of a literal.

Main statement: `server_grammar`.
-/

namespace SqlDump.Literal

open Text

open scoped Computability

/-- What makes a dialect of the grammar of literals. -/
structure Dialect where
  digit? : Symbol → Option Digit
  /-- What may stand between two digits of a number. -/
  separator : Language Symbol
  /-- The names of numbers. -/
  special : Language Symbol
  /-- What may follow a moment or a span inside the quotes. -/
  ending : Language Symbol

/-! ## Numbers -/

/-- One of the two signs. -/
def sign : Language Symbol :=
  oneOf fun symbol => symbol = .char '+' ∨ symbol = .char '-'

/-- The letter in front of an exponent. -/
def exponentMark : Language Symbol :=
  oneOf fun symbol => symbol = .char 'e' ∨ symbol = .char 'E'

/-- The exponent of a number, or nothing. -/
def exponent (group : Language Symbol) : Language Symbol :=
  1 + exponentMark * ((1 + sign) * group)

/-- A decimal number without its sign, made of groups of digits: a whole part that a point and
a fraction may follow, or a fraction alone, and behind it perhaps an exponent. -/
def decimal (group : Language Symbol) : Language Symbol :=
  (group * (1 + letter '.' * (1 + group)) + letter '.' * group) * exponent group

/-- The texts of digits that satisfy a condition. -/
def spelled (digit? : Symbol → Option Digit) (condition : List Digit → Prop) : Language Symbol :=
  {content | ∃ found, content.map digit? = found.map some ∧ condition found}

/-- What stands between two quotes and is undone to one of the contents. -/
def quoted (contents : Language Symbol) : Language Symbol :=
  {literal | ∃ quote ∈ quotes, ∃ body content, literal = quote :: (body ++ [quote]) ∧
    unescape quote body = .ok content ∧ content ∈ contents}

namespace Dialect

variable (dialect : Dialect)

def digit : Language Symbol :=
  oneOf fun symbol => (dialect.digit? symbol).isSome

/-- The digits of a part of a number. -/
def group : Language Symbol :=
  dialect.digit * (dialect.separator * dialect.digit)∗

def number : Language Symbol :=
  (1 + sign) * (decimal dialect.group + dialect.special)

/-! ## Moments and spans -/

/-- A field of a number of digits that satisfy a condition. -/
def field (least most : Nat) (condition : List Digit → Prop) : Language Symbol :=
  spelled dialect.digit? fun found =>
    (least ≤ found.length ∧ found.length ≤ most) ∧ condition found

/-- The end of a clock, with a fraction of up to six digits or without one. -/
def fraction : Language Symbol :=
  dialect.ending + letter '.' * (dialect.field 1 6 (fun _ => True) * dialect.ending)

/-- Minutes and seconds, both with a condition on their number, and the end of a clock. -/
def clock (sixtieth : Nat → Prop) : Language Symbol :=
  dialect.field 1 2 (fun found => sixtieth (Digit.value found)) *
    (letter ':' *
      (dialect.field 1 2 (fun found => sixtieth (Digit.value found)) * dialect.fraction))

def date : Language Symbol :=
  dialect.field 4 4 (fun _ => True) *
    (letter '-' * (dialect.field 1 2 (fun _ => True) *
      (letter '-' * dialect.field 1 2 (fun _ => True))))

/-- A date, and behind a space or a T perhaps a clock. -/
def moment : Language Symbol :=
  dialect.date * (dialect.ending + (letter ' ' + letter 'T') *
    (dialect.field 1 2 (fun _ => True) * (letter ':' * dialect.clock fun _ => True)))

/-- A clock whose hours are any number of digits and may have a minus in front, with conditions on
the hours and on the minutes and seconds. -/
def spanWhere (hours : List Digit → Prop) (sixtieth : Nat → Prop) : Language Symbol :=
  (1 + letter '-') *
    (spelled dialect.digit? (fun found => found ≠ [] ∧ hours found) *
      (letter ':' * dialect.clock sixtieth))

def span : Language Symbol :=
  dialect.spanWhere (fun _ => True) (fun _ => True)

/-! ## Literals -/

/-- The contents that a column takes between quotes. -/
def contents : Option Kind → Language Symbol
  | some .dateTime => dialect.moment
  | some .time => dialect.span
  | _ => ⊤

def grammar (kind : Option Kind) : Language Symbol :=
  anyCase "NULL" + dialect.number + quoted (dialect.contents kind)

/-! ## The two dialects -/

/-- The digit that a symbol is in ASCII. -/
def asciiDigit? : Symbol → Option Digit
  | .char value =>
      if '0' ≤ value ∧ value ≤ '9' then some (.ofNat (value.toNat - '0'.toNat)) else none
  | .stray _ | .lone _ => none

/-- The dialect of the server's manual. -/
def server : Dialect where
  digit? := asciiDigit?
  separator := 1
  special := 0
  ending := 1

/-- The dialect that the reader takes. -/
def reader : Dialect where
  digit? := Symbol.digit?
  separator := 1 + letter '_'
  special := {content | FloatNumeral.small content ∈ [text "inf", text "infinity", text "nan"]}
  ending := 1 + letter '\n'

@[simp] theorem server_digit? : server.digit? = asciiDigit? := rfl

@[simp] theorem reader_digit? : reader.digit? = Symbol.digit? := rfl

end Dialect

end SqlDump.Literal
