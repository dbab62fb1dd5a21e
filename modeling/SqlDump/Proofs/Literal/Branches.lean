import Mathlib.Data.List.Basic
import SqlDump.Literal.Decode

/-!
# The ways of reading a literal

The reader looks at a trimmed text once: it is empty, the word NULL, a body between two
quotes, opened by a quote that nothing closes, or a number. Every result comes from one of
these, and what is said about the reader is said about each of them.

Main statement: `decode_eq_iff_reads`.
-/

namespace SqlDump.Literal

/-- The symbols that stand around a body. -/
def quotes : List Symbol :=
  [.char '\'', .char '"']

/-- What a body between quotes is read as. -/
def readBody (kind : Option Kind) (quote : Symbol) (body : Text) : Except LiteralError Value :=
  match unescape quote body with
  | .ok content => readContent kind content
  | .error error => .error (.escape error)

/-- What a trimmed text is read as. -/
inductive Reads (kind : Option Kind) : Text → Except LiteralError Value → Prop where
  | empty : Reads kind [] (.error .empty)
  | null {literal : Text} (word : Text.capitals literal = text "NULL") :
      Reads kind literal (.ok .null)
  | quoted {quote : Symbol} (body : Text) (listed : quote ∈ quotes) :
      Reads kind (quote :: (body ++ [quote])) (readBody kind quote body)
  | unterminated {quote : Symbol} {rest : Text} (listed : quote ∈ quotes)
      (opened : ∀ body, rest ≠ body ++ [quote]) :
      Reads kind (quote :: rest) (.error (.unterminated (Quoted.ofText (quote :: rest))))
  | number {first : Symbol} {rest : Text} (bare : first ∉ quotes)
      (notNull : Text.capitals (first :: rest) ≠ text "NULL") :
      Reads kind (first :: rest) (readNumber kind (first :: rest))

theorem mem_quotes_iff {symbol : Symbol} :
    symbol ∈ quotes ↔ symbol = .char '\'' ∨ symbol = .char '"' := by
  simp [quotes]

/-- The word NULL begins with no quote. -/
theorem capitals_ne_null_of_quote {quote : Symbol} (listed : quote ∈ quotes) (rest : Text) :
    Text.capitals (quote :: rest) ≠ text "NULL" := by
  have same : quote.capital = [quote] ∧ quote ≠ .char 'N' := by
    rcases mem_quotes_iff.mp listed with rfl | rfl <;> decide
  simp [Text.capitals, same.1, text, same.2]

theorem readQuoted_enclosed (kind : Option Kind) (quote : Symbol) (body : Text) :
    readQuoted kind quote (quote :: (body ++ [quote])) = readBody kind quote body := by
  have closed : (quote :: body ++ [quote]).getLast? = some quote := List.getLast?_concat
  rw [List.cons_append] at closed
  have enclosed : ¬((quote :: (body ++ [quote])).length < 2 ∨
      (quote :: (body ++ [quote])).getLast? ≠ some quote) := by
    simp [closed]
  rw [readQuoted, if_neg enclosed, List.tail_cons, List.dropLast_concat]
  rfl

theorem readQuoted_opened (kind : Option Kind) {quote : Symbol} {rest : Text}
    (opened : ∀ body, rest ≠ body ++ [quote]) :
    readQuoted kind quote (quote :: rest) =
      .error (.unterminated (Quoted.ofText (quote :: rest))) := by
  rw [readQuoted, if_pos]
  rcases rest.eq_nil_or_concat' with rfl | ⟨body, last, rfl⟩
  · exact .inl (by simp)
  · have isLast : (quote :: body ++ [last]).getLast? = some last := List.getLast?_concat
    refine .inr fun closed => opened body ?_
    rw [Option.some.inj (isLast.symm.trans closed)]

/-- A trimmed text is read in one of the ways, -/
theorem reads_decode (kind : Option Kind) (content : Text) :
    Reads kind (Text.strip content) (decode kind content) := by
  rw [decode]
  cases Text.strip content with
  | nil => exact .empty
  | cons first rest =>
      simp only [← mem_quotes_iff]
      split
      next word => exact .null word
      next notNull =>
        split
        next listed =>
          by_cases closed : ∃ body, rest = body ++ [first]
          · obtain ⟨body, rfl⟩ := closed
            rw [readQuoted_enclosed]
            exact .quoted body listed
          · have opened : ∀ body, rest ≠ body ++ [first] := fun body same => closed ⟨body, same⟩
            rw [readQuoted_opened kind opened]
            exact .unterminated listed opened
        next bare => exact .number bare notNull

/-- The reader's result is the one that the text is read as. -/
theorem decode_eq_iff_reads {kind : Option Kind} {content : Text}
    {result : Except LiteralError Value} :
    decode kind content = result ↔ Reads kind (Text.strip content) result := by
  constructor
  · rintro rfl
    exact reads_decode kind content
  · intro reads
    rw [decode]
    generalize Text.strip content = literal at reads
    cases reads with
    | empty => rfl
    | null word =>
        cases literal with
        | nil => cases word
        | cons first rest => simp only [word, if_true]
    | quoted body listed =>
        simp only [← mem_quotes_iff, capitals_ne_null_of_quote listed, listed, if_true, if_false,
          readQuoted_enclosed]
    | unterminated listed opened =>
        simp only [← mem_quotes_iff, capitals_ne_null_of_quote listed, listed, if_true, if_false,
          readQuoted_opened kind opened]
    | number bare notNull => simp only [← mem_quotes_iff, bare, notNull, if_false]

end SqlDump.Literal
