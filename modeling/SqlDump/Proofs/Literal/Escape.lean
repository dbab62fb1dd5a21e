import SqlDump.Literal.Decode
import SqlDump.Proofs.Number.Numeral
import SqlDump.Proofs.Text.Trimming

/-!
# Undoing escapes

Every symbol of a content is written as itself or as a backslash with its mark.
The reader takes both apart again, and it meets no quote that stands alone, so
a quoted content reads back as the content whatever its symbols are.

Main statements: `unescape_escape` undoes the escapes of a body, and
`decode_quote` reads a quoted literal.
-/

namespace SqlDump.Literal

/-- The symbols that are not written as they are. -/
def escaped : List Symbol :=
  stringEscapes.map Prod.fst

/-- A symbol is written as a backslash and its mark or as itself. -/
theorem escapeSymbol_cases (symbol : Symbol) :
    (∃ mark, (symbol, mark) ∈ stringEscapes ∧ escapeSymbol symbol = [.char '\\', mark]) ∨
      (symbol ∉ escaped ∧ escapeSymbol symbol = [symbol]) := by
  by_cases listed : symbol ∈ escaped
  · refine .inl ?_
    simp only [escaped, stringEscapes, List.map_cons, List.map_nil, List.mem_cons,
      List.not_mem_nil, or_false] at listed
    rcases listed with rfl | rfl | rfl | rfl | rfl | rfl <;> exact ⟨_, by decide, rfl⟩
  · exact .inr ⟨listed, escapeSymbol_of_not_mem listed⟩

theorem ne_of_not_mem_escaped {symbol : Symbol} (unlisted : symbol ∉ escaped) :
    symbol ≠ .char '\\' ∧ symbol ≠ .char '\'' := by
  constructor
  · rintro rfl
    exact unlisted (by decide)
  · rintro rfl
    exact unlisted (by decide)

/-- A content without symbols to escape is written as it is. -/
theorem escape_eq_self {content : Text} (unlisted : ∀ symbol ∈ content, symbol ∉ escaped) :
    escape content = content := by
  rw [escape_eq_flatMap]
  induction content with
  | nil => rfl
  | cons symbol rest hypothesis =>
      rw [List.flatMap_cons, escapeSymbol_of_not_mem (unlisted symbol (by simp)),
        hypothesis fun other member => unlisted other (by simp [member])]
      rfl

/-- No digit is escaped. -/
theorem symbol_not_mem_escaped (digit : Digit) : digit.symbol ∉ escaped := by
  revert digit
  decide

/-! ## Bodies -/

/-- The marks stand for the symbols that they were written for. -/
theorem escapeMeaning_of_mem {symbol mark : Symbol} (listed : (symbol, mark) ∈ stringEscapes) :
    escapeMeaning mark = [symbol] := by
  simp only [stringEscapes, List.mem_cons, List.not_mem_nil, or_false, Prod.mk.injEq] at listed
  rcases listed with ⟨rfl, rfl⟩ | ⟨rfl, rfl⟩ | ⟨rfl, rfl⟩ | ⟨rfl, rfl⟩ | ⟨rfl, rfl⟩ | ⟨rfl, rfl⟩ <;>
    rfl

/-- The reader takes the written form of a symbol for that symbol. -/
theorem unescapeOnto_escapeSymbol (made : Text) (offset : Nat) (symbol : Symbol) (rest : Text) :
    unescapeOnto (.char '\'') made offset (escapeSymbol symbol ++ rest) =
      unescapeOnto (.char '\'') (symbol :: made) (offset + (escapeSymbol symbol).length) rest := by
  rcases escapeSymbol_cases symbol with ⟨mark, listed, written⟩ | ⟨unlisted, written⟩
  · rw [written]
    simp [unescapeOnto, escapeMeaning_of_mem listed]
  · obtain ⟨notBackslash, notQuote⟩ := ne_of_not_mem_escaped unlisted
    rw [written, List.singleton_append, unescapeOnto.eq_def]
    simp [notBackslash, notQuote]

theorem unescapeOnto_escape (made : Text) (offset : Nat) (content : Text) :
    unescapeOnto (.char '\'') made offset (escape content) = .ok (made.reverse ++ content) := by
  rw [escape_eq_flatMap]
  induction content generalizing made offset with
  | nil => simp [unescapeOnto]
  | cons symbol rest hypothesis =>
      rw [List.flatMap_cons, unescapeOnto_escapeSymbol, hypothesis]
      simp

/-- The escapes of a content are undone. -/
theorem unescape_escape (content : Text) :
    unescape (.char '\'') (escape content) = .ok content :=
  unescapeOnto_escape [] 0 content

/-! ## Literals -/

theorem getLast?_quote (content : Text) : (quote content).getLast? = some (.char '\'') :=
  List.getLast?_concat

theorem readQuoted_quote (kind : Option Kind) (content : Text) :
    readQuoted kind (.char '\'') (quote content) = readContent kind content := by
  have long : ¬(quote content).length < 2 := by simp [quote]
  have body : (quote content).tail.dropLast = escape content := by simp [quote]
  simp [readQuoted, long, getLast?_quote, body, unescape_escape]

/-- A quoted literal is read as its content. -/
theorem decode_quote (kind : Option Kind) (content : Text) :
    decode kind (quote content) = readContent kind content := by
  have visible : (Symbol.char '\'').isBlank = false := by decide
  have trimmed : Text.strip (quote content) = quote content :=
    Text.strip_eq_self (by simp [quote, visible]) (by simp [getLast?_quote, visible])
  have notNull : Text.capitals (quote content) ≠ text "NULL" := by
    intro same
    have first : (Symbol.char '\'').capital = [.char '\''] := by decide
    simp [quote, Text.capitals, first, text] at same
  have starts : quote content = .char '\'' :: (escape content ++ [.char '\'']) := rfl
  rw [decode, trimmed]
  simp only [starts] at notNull ⊢
  rw [if_neg notNull, if_pos (by simp), ← starts, readQuoted_quote]

end SqlDump.Literal
