import SqlDump.Text.Symbol

/-!
# Capitals

Keywords are compared in capital letters. They are ASCII, so the capital form
only has to be right for the symbols whose full Unicode capital is ASCII: the
small Latin letters, the dotless i, the long and the sharp s, and the Latin
ligatures. Every other symbol stands for itself, and no keyword contains it.
-/

namespace SqlDump

/-- The characters beyond ASCII whose capital form is ASCII. -/
def capitalForms : List (Nat × String) :=
  [(0xDF, "SS"), (0x131, "I"), (0x17F, "S"), (0xFB00, "FF"), (0xFB01, "FI"), (0xFB02, "FL"),
    (0xFB03, "FFI"), (0xFB04, "FFL"), (0xFB05, "ST"), (0xFB06, "ST")]

/-- The capital form of a symbol as far as it is ASCII. -/
def Symbol.capital : Symbol → Text
  | .char value =>
      match capitalForms.lookup value.toNat with
      | some form => text form
      | none => [.char value.toUpper]
  | surrogate@(.stray _) | surrogate@(.lone _) => [surrogate]

/-- The capital form of a text, exact for comparison with ASCII capitals. -/
def Text.capitals (content : Text) : Text :=
  content.flatMap Symbol.capital

end SqlDump
