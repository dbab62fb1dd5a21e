import SqlDump.Text.Symbol

/-!
# Blanks

The blank characters of a text are those of Unicode's White_Space property
together with the four information separators. Trimming removes them at both
ends. The server's text values are octets and have a smaller set, the six ASCII
blanks.
-/

namespace SqlDump

def blankRanges : List (Nat × Nat) :=
  [(0x09, 0x0D), (0x1C, 0x20), (0x85, 0x85), (0xA0, 0xA0), (0x1680, 0x1680), (0x2000, 0x200A),
    (0x2028, 0x2029), (0x202F, 0x202F), (0x205F, 0x205F), (0x3000, 0x3000)]

def Symbol.isBlank : Symbol → Bool
  | .char value => blankRanges.any fun (first, last) => first ≤ value.toNat && value.toNat ≤ last
  | .stray _ | .lone _ => false

/-- Whether an octet is one of the six ASCII blanks. -/
def isBlankOctet (octet : UInt8) : Bool :=
  octet = 0x20 || (0x09 ≤ octet && octet ≤ 0x0D)

/-- A list without the elements at both ends that satisfy a condition. -/
def trimBoth {α : Type} (drops : α → Bool) (items : List α) : List α :=
  ((items.dropWhile drops).reverse.dropWhile drops).reverse

/-- A text without its leading and trailing blanks. -/
def Text.strip (content : Text) : Text :=
  trimBoth Symbol.isBlank content

@[simp] theorem Text.strip_nil : Text.strip [] = [] := rfl

end SqlDump
