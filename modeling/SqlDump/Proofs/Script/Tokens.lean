import SqlDump.Proofs.Script.Pieces
import SqlDump.Script.Token

/-!
# Statements by tokens

The scanner works through a script symbol by symbol; the tokens cut it into whole
comments and quoted runs. At the end of each token the scanner is where it was at
the beginning of the script, or the script is over, so both find the same marks.

Main statements: `tokens_spec` reads a script and its marks off its tokens, and
`splitEach_eq_tokenStatements` says what a splitter makes of scripts.
-/

namespace SqlDump.Script

/-! ## Cuts -/

/-- Whether a scan takes the first part of a content with certain marks, and finds in
the rest what it finds there outside comments and quoted runs. -/
def Cuts (state : State) (content taken : Text) (marks : List Mark) : Prop :=
  ∃ remaining, content = taken ++ remaining ∧
    (scan state content).marks = marks ++ (scan .start remaining).marks

theorem cuts_nil (state : State) : Cuts state [] [] [] :=
  ⟨[], rfl, rfl⟩

theorem cuts_start (content : Text) : Cuts .start content [] [] :=
  ⟨content, rfl, rfl⟩

theorem Cuts.step {state after : State} {symbol : Symbol} {rest taken : Text} {mark : Option Mark}
    {marks : List Mark} (advance : state.advance symbol rest.head? = (mark, after))
    (cuts : Cuts after rest taken marks) :
    Cuts state (symbol :: rest) (symbol :: taken) (mark.toList ++ marks) := by
  obtain ⟨remaining, rfl, found⟩ := cuts
  refine ⟨remaining, rfl, ?_⟩
  rw [scan_step, advance, Scan.behind_marks, found, List.append_assoc]

theorem Cuts.verbatim {mode : Mode} {rest taken : Text} {marks : List Mark}
    (cuts : Cuts { mode } rest taken marks) (symbol : Symbol) :
    Cuts { mode, verbatim := true } (symbol :: rest) (symbol :: taken) (.kept symbol :: marks) := by
  have advance : State.advance { mode, verbatim := true } symbol rest.head? =
      (some (.kept symbol), { mode }) := rfl
  exact cuts.step advance

/-- A line comment is cut in front of its newline. -/
theorem cuts_lineComment (content : Text) :
    Cuts { mode := .lineComment } content (content.takeWhile (· ≠ .char '\n')) [] := by
  induction content with
  | nil => exact cuts_nil _
  | cons symbol rest hypothesis =>
      by_cases newline : symbol = .char '\n'
      · rw [newline]
        exact ⟨.char '\n' :: rest, rfl, rfl⟩
      · have advance : State.advance { mode := .lineComment } symbol rest.head? =
            (none, { mode := .lineComment }) := by
          simp [State.advance, advanceLineComment, newline]
        simpa [newline] using hypothesis.step advance

/-- A block comment is cut behind the first closing mark. -/
theorem cuts_blockBody (content : Text) :
    Cuts { mode := .blockComment } content (blockBody content) (kept (blockBody content)) := by
  induction content using blockBody.induct with
  | case1 => exact cuts_nil _
  | case2 rest =>
      have star : State.advance { mode := .blockComment } (.char '*') (some (.char '/')) =
          (some (.kept (.char '*')), { mode := .normal, verbatim := true }) := by
        simp [State.advance, advanceBlockComment]
      exact ((cuts_start rest).verbatim (.char '/')).step star
  | case3 symbol rest unclosed hypothesis =>
      have notClosing : ¬(symbol = .char '*' ∧ rest.head? = some (.char '/')) := by
        rintro ⟨rfl, slash⟩
        obtain ⟨others, rfl⟩ := List.head?_eq_some_iff.mp slash
        exact unclosed others rfl rfl
      have advance : State.advance { mode := .blockComment } symbol rest.head? =
          (some (.kept symbol), { mode := .blockComment }) := by
        simp only [State.advance, advanceBlockComment, notClosing]
        rfl
      have body : blockBody (symbol :: rest) = symbol :: blockBody rest := by
        rw [blockBody]
        exact unclosed
      rw [body]
      exact hypothesis.step advance

/-- A quoted run keeps each of its symbols. -/
theorem advanceQuoted_fst (quote : Quote) (symbol : Symbol) (next : Option Symbol) :
    (advanceQuoted quote symbol next).1 = some (.kept symbol) := by
  simp only [advanceQuoted]
  repeat' split
  all_goals rfl

/-- A quoted run is cut behind its closing quote. -/
theorem cuts_quotedBody (quote : Quote) (content : Text) :
    Cuts (.inside quote) content (quotedBody quote content) (kept (quotedBody quote content)) := by
  induction content using quotedBody.induct quote with
  | case1 => exact cuts_nil _
  | case2 last =>
      -- Whatever the last symbol is, it is kept, and the script is over.
      have mark : ((State.inside quote).advance last [].head?).1 = some (.kept last) :=
        advanceQuoted_fst quote last none
      refine ⟨[], rfl, ?_⟩
      rw [scan_step, Scan.behind_marks, mark]
      rfl
  | case3 next rest hypothesis =>
      have advance : (State.inside quote).advance (.char '\\') (some next) =
          (some (.kept (.char '\\')), { mode := .quoted quote, verbatim := true }) := by
        simp [State.advance, State.inside, advanceQuoted]
      have body : quotedBody quote (.char '\\' :: next :: rest) =
          .char '\\' :: next :: quotedBody quote rest := by
        simp [quotedBody]
      rw [body]
      exact (Cuts.verbatim hypothesis next).step advance
  | case4 rest notBackslash hypothesis =>
      have advance : (State.inside quote).advance quote.symbol (some quote.symbol) =
          (some (.kept quote.symbol), { mode := .quoted quote, verbatim := true }) := by
        simp [State.advance, State.inside, advanceQuoted, notBackslash]
      have body : quotedBody quote (quote.symbol :: quote.symbol :: rest) =
          quote.symbol :: quote.symbol :: quotedBody quote rest := by
        simp [quotedBody, notBackslash]
      rw [body]
      exact (Cuts.verbatim hypothesis quote.symbol).step advance
  | case5 next rest notDoubled notBackslash =>
      have advance : (State.inside quote).advance quote.symbol (some next) =
          (some (.kept quote.symbol), .start) := by
        simp [State.advance, State.inside, State.start, advanceQuoted, notBackslash, notDoubled]
      have body : quotedBody quote (quote.symbol :: next :: rest) = [quote.symbol] := by
        simp [quotedBody, notBackslash, notDoubled]
      rw [body]
      exact (cuts_start (next :: rest)).step advance
  | case6 symbol next rest notBackslash notQuote hypothesis =>
      have advance : (State.inside quote).advance symbol (some next) =
          (some (.kept symbol), .inside quote) := by
        simp [State.advance, State.inside, advanceQuoted, notBackslash, notQuote]
      have body : quotedBody quote (symbol :: next :: rest) =
          symbol :: quotedBody quote (next :: rest) := by
        rw [quotedBody, if_neg notBackslash, if_neg notQuote]
      rw [body]
      exact hypothesis.step advance

/-! ## Tokens -/

/-- The marks of a token. -/
def Token.marks : Token → List Mark
  | .delimiter => [.delimiter]
  | token => Script.kept token.kept

/-- A script is cut behind its first token. -/
theorem cuts_firstToken (symbol : Symbol) (rest : Text) :
    Cuts .start (symbol :: rest) (firstToken symbol rest).symbols
      (firstToken symbol rest).marks := by
  by_cases lineComment : symbol = .char '#' ∨ (symbol = .char '-' ∧ rest.head? = some (.char '-'))
  · have advance : State.start.advance symbol rest.head? = (none, { mode := .lineComment }) := by
      rcases lineComment with rfl | ⟨rfl, dash⟩
      · rfl
      · rw [dash]
        rfl
    rw [firstToken, if_pos lineComment]
    exact (cuts_lineComment rest).step advance
  by_cases blockComment : symbol = .char '/' ∧ rest.head? = some (.char '*')
  · rw [firstToken, if_neg lineComment, if_pos blockComment]
    obtain ⟨rfl, star⟩ := blockComment
    obtain ⟨content, rfl⟩ := List.head?_eq_some_iff.mp star
    have advance : State.start.advance (.char '/') (some (.char '*')) =
        (some (.kept (.char '/')), { mode := .blockComment, verbatim := true }) := rfl
    exact ((cuts_blockBody content).verbatim (.char '*')).step advance
  by_cases delimiter : symbol = .char ';'
  · rw [firstToken, if_neg lineComment, if_neg blockComment, if_pos delimiter, delimiter]
    have advance : State.start.advance (.char ';') rest.head? = (some .delimiter, .start) := rfl
    exact (cuts_start rest).step advance
  rw [firstToken, if_neg lineComment, if_neg blockComment, if_neg delimiter]
  obtain ⟨notHash, notDashes⟩ := not_or.mp lineComment
  cases quoted : Quote.ofSymbol? symbol with
  | some quote =>
      have advance : State.start.advance symbol rest.head? =
          (some (.kept symbol), .inside quote) := by
        simp [State.advance, State.start, State.inside, advanceNormal, notDashes, notHash,
          blockComment, delimiter, quoted]
      exact (cuts_quotedBody quote rest).step advance
  | none =>
      have advance : State.start.advance symbol rest.head? = (some (.kept symbol), .start) := by
        simp [State.advance, State.start, advanceNormal, notDashes, notHash, blockComment,
          delimiter, quoted]
      exact (cuts_start rest).step advance

theorem symbols_firstToken_ne_nil (symbol : Symbol) (rest : Text) :
    (firstToken symbol rest).symbols ≠ [] := by
  simp only [firstToken]
  repeat' split
  all_goals simp [Token.symbols]

theorem tokensAfter_eq (skip : Nat) (content : Text) :
    tokensAfter skip content = tokens (content.drop skip) := by
  induction content generalizing skip with
  | nil => simp [tokensAfter, tokens]
  | cons symbol rest hypothesis =>
      cases skip with
      | zero => rfl
      | succ skip => simpa [tokensAfter] using hypothesis skip

/-- The tokens of a script are its first token and those of what follows it. -/
theorem tokens_cons {symbol : Symbol} {rest remaining : Text}
    (cut : symbol :: rest = (firstToken symbol rest).symbols ++ remaining) :
    tokens (symbol :: rest) = firstToken symbol rest :: tokens remaining := by
  have nonempty := symbols_firstToken_ne_nil symbol rest
  have behind : rest.drop ((firstToken symbol rest).symbols.length - 1) = remaining := by
    cases taken : (firstToken symbol rest).symbols with
    | nil => exact absurd taken nonempty
    | cons first others =>
        rw [taken, List.cons_append] at cut
        rw [(List.cons.inj cut).2]
        simp
  rw [tokens, tokensAfter]
  simp only [tokensAfter_eq, behind]

/-- The tokens of a script have its symbols and its marks. -/
theorem tokens_spec (script : Text) :
    (tokens script).flatMap Token.symbols = script ∧
      (scan .start script).marks = (tokens script).flatMap Token.marks := by
  induction length : script.length using Nat.strongRecOn generalizing script with
  | _ count hypothesis =>
      cases script with
      | nil => exact ⟨rfl, rfl⟩
      | cons symbol rest =>
          obtain ⟨remaining, cut, found⟩ := cuts_firstToken symbol rest
          have shorter : remaining.length < count := by
            have taken := List.length_pos_iff.mpr (symbols_firstToken_ne_nil symbol rest)
            have sum := congrArg List.length cut
            simp only [List.length_append] at sum
            omega
          obtain ⟨symbols, marks⟩ := hypothesis _ shorter remaining rfl
          rw [tokens_cons cut, List.flatMap_cons, List.flatMap_cons, symbols, found, marks]
          exact ⟨cut.symm, rfl⟩

/-! ## Statements -/

theorem marks_of_isDelimiter_eq_false {token : Token} (notDelimiter : token.isDelimiter = false) :
    token.marks = kept token.kept := by
  cases token with
  | delimiter => cases notDelimiter
  | _ => rfl

/-- The pieces between the delimiters among the tokens. -/
theorem pieces_flatMap_marks (found : List Token) :
    pieces (found.flatMap Token.marks) =
      (found.splitOnP Token.isDelimiter).map (·.flatMap Token.kept) := by
  induction found with
  | nil => rfl
  | cons token rest hypothesis =>
      rw [List.flatMap_cons, List.splitOnP_cons_eq_if_modifyHead]
      cases isDelimiter : token.isDelimiter with
      | true =>
          have delimiter : token = .delimiter := by
            cases token with
            | delimiter => rfl
            | _ => cases isDelimiter
          simpa [delimiter, Token.marks, hypothesis] using
            pieces_delimiter_cons (rest.flatMap Token.marks)
      | false =>
          rw [marks_of_isDelimiter_eq_false isDelimiter, pieces_kept_append, hypothesis]
          cases rest.splitOnP Token.isDelimiter <;> simp

/-- What the tokens tell about the statements is what the scanner marks. -/
theorem statements_eq_tokenStatements (script : Text) :
    statements script = tokenStatements script := by
  rw [statements_eq, (tokens_spec script).2, pieces_flatMap_marks, tokenStatements]

/-- A script is cut into tokens without a rest, and a splitter, whatever it has read
before, finds in each script the statements that its tokens tell. -/
theorem splitEach_eq_tokenStatements :
    (∀ script, (tokens script).flatMap Token.symbols = script ∧
        statements script = tokenStatements script) ∧
      ∀ (splitter : Splitter) (scripts : List Text),
        splitter.splitEach scripts = scripts.map tokenStatements := by
  constructor
  · intro script
    exact ⟨(tokens_spec script).1, statements_eq_tokenStatements script⟩
  · intro splitter scripts
    rw [splitEach_eq]
    apply List.map_congr_left
    intro script _
    exact statements_eq_tokenStatements script

end SqlDump.Script
