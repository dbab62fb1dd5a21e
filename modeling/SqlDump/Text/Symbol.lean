/-!
# Symbols and texts

A script is read from a file that need not be valid UTF-8, and it has to leave
the library with the same bytes. A text is therefore a list of symbols, and a
symbol is a Unicode character, one stray octet that belongs to no character, or a
lone surrogate. The surrogates are the code points that are no characters. Stray
octets take the places of 128 of them; the others have no octets in any encoding,
so no text that was read holds one, and no text that holds one can be written.
Offsets and lengths count symbols.
-/

namespace SqlDump

/-- A surrogate that is not the place of a stray octet. -/
structure Surrogate where
  code : Nat
  isLone : 0xD800 ≤ code ∧ code < 0xDC80 ∨ 0xDD00 ≤ code ∧ code < 0xE000
  deriving DecidableEq, Repr

/-- A character, the octet `0x80 + offset` where it belongs to no character, or a
surrogate without an octet. -/
inductive Symbol where
  | char (value : Char)
  | stray (offset : Fin 128)
  | lone (surrogate : Surrogate)
  deriving DecidableEq, Repr, Inhabited

/-- A sequence of symbols. -/
abbrev Text := List Symbol

abbrev Octets := List UInt8

/-- The text of a string, which has characters only. -/
def text (source : String) : Text :=
  source.toList.map .char

@[simp] theorem text_empty : text "" = [] := rfl

namespace Symbol

/-- The place of a symbol in the order of texts. Stray octets and lone surrogates
stand in the gap that the scalar values leave between 0xD800 and 0xDFFF, so no
character shares a place with one. -/
def place : Symbol → Nat
  | .char value => value.toNat
  | .stray offset => 0xDC80 + offset.val
  | .lone surrogate => surrogate.code

def isStray : Symbol → Bool
  | .stray _ => true
  | .char _ | .lone _ => false

def isLone : Symbol → Bool
  | .lone _ => true
  | .char _ | .stray _ => false

/-- Whether a symbol stands at the place of a surrogate. -/
def isSurrogate : Symbol → Bool
  | .char _ => false
  | .stray _ | .lone _ => true

@[simp] theorem isSurrogate_char (value : Char) : (char value).isSurrogate = false := rfl

@[simp] theorem isSurrogate_stray (offset : Fin 128) : (stray offset).isSurrogate = true := rfl

@[simp] theorem isSurrogate_lone (surrogate : Surrogate) :
    (lone surrogate).isSurrogate = true := rfl

@[simp] theorem isLone_char (value : Char) : (char value).isLone = false := rfl

@[simp] theorem isLone_stray (offset : Fin 128) : (stray offset).isLone = false := rfl

@[simp] theorem isLone_lone (surrogate : Surrogate) : (lone surrogate).isLone = true := rfl

/-- What is no surrogate is a character. -/
theorem isSurrogate_eq_false_iff {symbol : Symbol} :
    symbol.isSurrogate = false ↔ ∃ value, symbol = char value := by
  cases symbol with
  | char value => simp
  | stray offset => simp
  | lone surrogate => simp

@[simp] theorem place_char (value : Char) : (char value).place = value.toNat := rfl

@[simp] theorem place_stray (offset : Fin 128) :
    (stray offset).place = 0xDC80 + offset.val := rfl

@[simp] theorem place_lone (surrogate : Surrogate) :
    (lone surrogate).place = surrogate.code := rfl

/-- Characters stand outside the gap of the surrogates. -/
theorem place_char_outside (value : Char) :
    (char value).place < 0xD800 ∨ 0xDFFF < (char value).place := by
  have valid := value.valid
  simp only [UInt32.isValidChar, Nat.isValidChar] at valid
  simp only [place_char, Char.toNat]
  omega

/-- Different symbols have different places. -/
theorem place_injective {left right : Symbol} (same : left.place = right.place) :
    left = right := by
  cases left with
  | char leftValue =>
      have outside := place_char_outside leftValue
      rw [same] at outside
      cases right with
      | char rightValue => exact congrArg char (Char.toNat_inj.mp same)
      | stray offset =>
          simp only [place_stray] at outside
          omega
      | lone surrogate =>
          have inside := surrogate.isLone
          simp only [place_lone] at outside
          omega
  | stray offset =>
      cases right with
      | char rightValue =>
          have outside := place_char_outside rightValue
          simp only [← same, place_stray] at outside
          omega
      | stray other =>
          simp only [place_stray] at same
          exact congrArg stray (Fin.ext (by omega))
      | lone surrogate =>
          have apart := surrogate.isLone
          simp only [place_stray, place_lone] at same
          omega
  | lone surrogate =>
      have inside := surrogate.isLone
      cases right with
      | char rightValue =>
          have outside := place_char_outside rightValue
          simp only [← same, place_lone] at outside
          omega
      | stray offset =>
          simp only [place_stray, place_lone] at same
          omega
      | lone other =>
          obtain ⟨code, isLone⟩ := surrogate
          obtain ⟨otherCode, otherIsLone⟩ := other
          obtain rfl : code = otherCode := same
          rfl

end Symbol

namespace Text

def hasSurrogate (content : Text) : Bool :=
  content.any Symbol.isSurrogate

def hasLone (content : Text) : Bool :=
  content.any Symbol.isLone

@[simp] theorem hasSurrogate_append (left right : Text) :
    hasSurrogate (left ++ right) = (hasSurrogate left || hasSurrogate right) := by
  simp [hasSurrogate]

@[simp] theorem hasLone_append (left right : Text) :
    hasLone (left ++ right) = (hasLone left || hasLone right) := by
  simp [hasLone]

theorem hasLone_of_hasSurrogate_eq_false {content : Text} (clean : content.hasSurrogate = false) :
    content.hasLone = false := by
  simp only [hasSurrogate, hasLone, List.any_eq_false, Bool.not_eq_true] at clean ⊢
  intro symbol listed
  obtain ⟨value, rfl⟩ := Symbol.isSurrogate_eq_false_iff.mp (clean symbol listed)
  rfl

/-- Lexicographic order by the places of the symbols; a text comes before its extensions. -/
def before : Text → Text → Bool
  | [], [] => false
  | [], _ :: _ => true
  | _ :: _, [] => false
  | left :: leftRest, right :: rightRest =>
      if left = right then before leftRest rightRest else left.place < right.place

end Text

end SqlDump
