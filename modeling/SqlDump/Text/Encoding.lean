import SqlDump.Text.Quoted
import SqlDump.Text.Utf8

/-!
# Encodings

The three encodings of a column. Reading never fails: what an encoding has no
character for becomes stray octets, which every encoding writes back as they
were. Writing fails at the first run of symbols beyond the encoding that does not
consist of stray octets; beyond UTF-8 are the lone surrogates.
-/

namespace SqlDump

/-- An encoding of characters in octets. -/
inductive Encoding where
  | utf8
  | ascii
  | latin1
  deriving DecidableEq, Repr

namespace Encoding

def name : Encoding → Text
  | .utf8 => text "utf-8"
  | .ascii => text "ascii"
  | .latin1 => text "latin-1"

/-- The first code point beyond an encoding with single octets. -/
def bound? : Encoding → Option Nat
  | .utf8 => none
  | .ascii => some 128
  | .latin1 => some 256

def decode : Encoding → Octets → Text
  | .utf8, octets => Utf8.decode octets
  | .ascii, octets =>
      octets.map fun octet =>
        if octet.toNat < 0x80 then .char (Char.ofNat octet.toNat) else Utf8.strayOf octet
  | .latin1, octets => octets.map fun octet => .char (Char.ofNat octet.toNat)

/-- Characters that an encoding cannot write: their place, how many symbols beyond
the encoding stand there, and the first one. -/
structure Unwritable where
  encoding : Encoding
  place : Nat
  span : Nat
  first : Symbol
  deriving DecidableEq, Repr

/-- Whether a symbol is beyond an encoding. -/
def isBeyond (encoding : Encoding) (symbol : Symbol) : Bool :=
  match encoding.bound? with
  | none => symbol.isSurrogate
  | some bound => bound ≤ symbol.place

/-- The octet of a symbol within a single-octet encoding, or of a stray one. -/
def singleOctet : Symbol → Octets
  | .char value => [UInt8.ofNat value.toNat]
  | .stray offset => [UInt8.ofNat (0x80 + offset.val)]
  | .lone _ => []

/-- The octets of the symbols that have some. -/
def octets : Encoding → Text → Octets
  | .utf8, content => Utf8.encode content
  | .ascii, content | .latin1, content => content.flatMap singleOctet

/-- The first unwritable characters of a text that starts at `place`. -/
def unwritable? (encoding : Encoding) : (place : Nat) → Text → Option Unwritable
  | _, [] => none
  | place, symbol :: rest =>
      if encoding.isBeyond symbol && !symbol.isStray then
        some { encoding, place, span := 1 + (rest.takeWhile encoding.isBeyond).length
               first := symbol }
      else unwritable? encoding (place + 1) rest

def encode (encoding : Encoding) (content : Text) : Except Unwritable Octets :=
  match encoding.unwritable? 0 content with
  | some failure => .error failure
  | none => .ok (encoding.octets content)

/-- UTF-8 has octets for every text without lone surrogates. -/
theorem unwritable?_utf8_eq_none_iff {place : Nat} {content : Text} :
    utf8.unwritable? place content = none ↔ content.hasLone = false := by
  induction content generalizing place with
  | nil => simp [unwritable?, Text.hasLone]
  | cons symbol rest hypothesis =>
      cases symbol with
      | char value =>
          simpa [unwritable?, isBeyond, bound?, Text.hasLone] using hypothesis
      | stray offset =>
          simpa [unwritable?, isBeyond, bound?, Text.hasLone, Symbol.isStray] using hypothesis
      | lone surrogate =>
          simp [unwritable?, isBeyond, bound?, Text.hasLone, Symbol.isStray]

theorem encode_utf8_of_hasLone_eq_false {content : Text} (clean : content.hasLone = false) :
    utf8.encode content = .ok (Utf8.encode content) := by
  rw [encode, unwritable?_utf8_eq_none_iff.mpr clean]
  rfl

theorem encode_utf8_eq_ok_iff {content : Text} {octets : Octets} :
    utf8.encode content = .ok octets ↔ content.hasLone = false ∧ Utf8.encode content = octets := by
  constructor
  · intro encoded
    cases lone : content.hasLone with
    | false => simpa [encode_utf8_of_hasLone_eq_false lone] using encoded
    | true =>
        rw [encode] at encoded
        cases found : utf8.unwritable? 0 content with
        | none => simp [unwritable?_utf8_eq_none_iff.mp found] at lone
        | some failure => simp [found] at encoded
  · rintro ⟨clean, rfl⟩
    exact encode_utf8_of_hasLone_eq_false clean

theorem encode_utf8_eq_error_iff {content : Text} :
    (∃ failure, utf8.encode content = .error failure) ↔ content.hasLone = true := by
  cases encoded : utf8.encode content with
  | ok octets => simp [(encode_utf8_eq_ok_iff.mp encoded).1]
  | error failure =>
      cases lone : content.hasLone with
      | false => simp [encode_utf8_of_hasLone_eq_false lone] at encoded
      | true => simp

/-- A place in a message, or the first and the last place of a longer span. -/
def placeText (place span : Nat) : Text :=
  if span = 1 then Digit.text (digits place)
  else Digit.text (digits place) ++ text "-" ++ Digit.text (digits (place + span - 1))

/-- The wording for unwritable characters. -/
def Unwritable.message (failure : Unwritable) : Text :=
  text "'" ++ failure.encoding.name ++ text "' codec can't encode " ++
    (if failure.span = 1 then
      text "character '" ++ Quoted.codeEscape failure.first.place ++ text "' in position "
    else text "characters in position ") ++
    placeText failure.place failure.span ++ text ": " ++
    match failure.encoding.bound? with
    | none => text "surrogates not allowed"
    | some bound => text "ordinal not in range(" ++ Digit.text (digits bound) ++ text ")"

end Encoding

def Utf8.Reason.message : Utf8.Reason → Text
  | .start => text "invalid start byte"
  | .continuation => text "invalid continuation byte"
  | .ending => text "unexpected end of data"

/-- The wording for octets that are not UTF-8. -/
def Utf8.Invalid.message (failure : Utf8.Invalid) : Text :=
  text "'utf-8' codec can't decode " ++
    (if failure.defect.span = 1 then
      text "byte 0x" ++ Quoted.hexadecimal 2 failure.first.toNat ++ text " in position "
    else text "bytes in position ") ++
    Encoding.placeText failure.place failure.defect.span ++ text ": " ++
    failure.defect.reason.message

end SqlDump
