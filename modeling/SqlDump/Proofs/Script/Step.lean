import SqlDump.Script.Scanner
import Mathlib.Tactic.SplitIfs

/-!
# Steps of the scanner

The scanner reads a script symbol by symbol, and there are few things that a symbol can
do: each is one case of `Step`. What holds of one symbol is proved by cases on its step.

Main statements: `exists_step` and `Step.advance_eq`.
-/

namespace SqlDump.Script

/-- The state inside a quoted run. -/
def State.inside (quote : Quote) : State :=
  { mode := .quoted quote }

/-- What one symbol can do in front of another one: the mark it gets and the state behind it. -/
inductive Step : State → Symbol → Option Symbol → Option Mark → State → Prop
  | verbatim (mode : Mode) (symbol : Symbol) (next : Option Symbol) :
      Step { mode, verbatim := true } symbol next (some (.kept symbol)) { mode }
  | beginLine {symbol : Symbol} {next : Option Symbol}
      (begins : symbol = .char '-' ∧ next = some (.char '-') ∨ symbol = .char '#') :
      Step .start symbol next none { mode := .lineComment }
  | beginBlock :
      Step .start (.char '/') (some (.char '*')) (some (.kept (.char '/')))
        { mode := .blockComment, verbatim := true }
  | delimiter (next : Option Symbol) : Step .start (.char ';') next (some .delimiter) .start
  | openQuote (quote : Quote) (next : Option Symbol) :
      Step .start quote.symbol next (some (.kept quote.symbol)) (.inside quote)
  | plain {symbol : Symbol} {next : Option Symbol}
      (noLine : ¬(symbol = .char '-' ∧ next = some (.char '-') ∨ symbol = .char '#'))
      (noBlock : ¬(symbol = .char '/' ∧ next = some (.char '*')))
      (notDelimiter : symbol ≠ .char ';') (noQuote : Quote.ofSymbol? symbol = none) :
      Step .start symbol next (some (.kept symbol)) .start
  | endLine (next : Option Symbol) :
      Step { mode := .lineComment } (.char '\n') next (some (.kept (.char '\n'))) .start
  | inLine {symbol : Symbol} {next : Option Symbol} (notNewline : symbol ≠ .char '\n') :
      Step { mode := .lineComment } symbol next none { mode := .lineComment }
  | endBlock :
      Step { mode := .blockComment } (.char '*') (some (.char '/')) (some (.kept (.char '*')))
        { mode := .normal, verbatim := true }
  | inBlock {symbol : Symbol} {next : Option Symbol}
      (notEnd : ¬(symbol = .char '*' ∧ next = some (.char '/'))) :
      Step { mode := .blockComment } symbol next (some (.kept symbol)) { mode := .blockComment }
  | escape (quote : Quote) (next : Option Symbol) :
      Step (.inside quote) (.char '\\') next (some (.kept (.char '\\')))
        { mode := .quoted quote, verbatim := true }
  | double (quote : Quote) :
      Step (.inside quote) quote.symbol (some quote.symbol) (some (.kept quote.symbol))
        { mode := .quoted quote, verbatim := true }
  | closeQuote (quote : Quote) {next : Option Symbol} (single : next ≠ some quote.symbol) :
      Step (.inside quote) quote.symbol next (some (.kept quote.symbol)) .start
  | inQuote (quote : Quote) {symbol : Symbol} {next : Option Symbol}
      (notBackslash : symbol ≠ .char '\\') (notQuote : symbol ≠ quote.symbol) :
      Step (.inside quote) symbol next (some (.kept symbol)) (.inside quote)

/-- Every symbol does one of these in every state. -/
theorem exists_step (state : State) (symbol : Symbol) (next : Option Symbol) :
    ∃ mark after, state.advance symbol next = (mark, after) ∧
      Step state symbol next mark after := by
  refine ⟨_, _, rfl, ?_⟩
  obtain ⟨mode, verbatim⟩ := state
  cases verbatim with
  | true => exact .verbatim mode symbol next
  | false =>
      cases mode with
      | normal =>
          simp only [advanceNormal]
          split_ifs with dashes hash block delimiter
          · exact .beginLine (.inl dashes)
          · exact .beginLine (.inr hash)
          · obtain ⟨rfl, rfl⟩ := block
            exact .beginBlock
          · rw [delimiter]
            exact .delimiter next
          · cases found : Quote.ofSymbol? symbol with
            | none => exact .plain (not_or.mpr ⟨dashes, hash⟩) block delimiter found
            | some quote =>
                rw [Quote.symbol_of_ofSymbol? found]
                exact .openQuote quote next
      | lineComment =>
          simp only [advanceLineComment]
          split_ifs with newline
          · rw [newline]
            exact .endLine next
          · exact .inLine newline
      | blockComment =>
          simp only [advanceBlockComment]
          split_ifs with closing
          · obtain ⟨rfl, rfl⟩ := closing
            exact .endBlock
          · exact .inBlock closing
      | quoted quote =>
          simp only [advanceQuoted]
          split_ifs with backslash same doubled
          · rw [backslash]
            exact .escape quote next
          · rw [same, doubled]
            exact .double quote
          · rw [same]
            exact .closeQuote quote doubled
          · exact .inQuote quote backslash same

/-- A step is what the scanner does. -/
theorem Step.advance_eq {state after : State} {symbol : Symbol} {next : Option Symbol}
    {mark : Option Mark} (step : Step state symbol next mark after) :
    state.advance symbol next = (mark, after) := by
  cases step with
  | verbatim => rfl
  | beginLine begins =>
      rcases begins with ⟨rfl, rfl⟩ | rfl
      · rfl
      · rfl
  | beginBlock => rfl
  | delimiter => rfl
  | openQuote quote => cases quote <;> rfl
  | plain noLine noBlock notDelimiter noQuote =>
      obtain ⟨noDashes, notHash⟩ := not_or.mp noLine
      simp [State.advance, State.start, advanceNormal, noDashes, notHash, noBlock, notDelimiter,
        noQuote]
  | endLine => rfl
  | inLine notNewline => simp [State.advance, advanceLineComment, notNewline]
  | endBlock => rfl
  | inBlock notEnd => simp [State.advance, advanceBlockComment, notEnd]
  | escape => rfl
  | double quote => cases quote <;> rfl
  | closeQuote quote single =>
      have notBackslash : quote.symbol ≠ .char '\\' := by cases quote <;> decide
      simp [State.advance, State.inside, State.start, advanceQuoted, notBackslash, single]
  | inQuote quote notBackslash notQuote =>
      simp [State.advance, State.inside, advanceQuoted, notBackslash, notQuote]

end SqlDump.Script
