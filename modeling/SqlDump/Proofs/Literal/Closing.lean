import SqlDump.Literal.Escape
import SqlDump.Proofs.Script.Step
import SqlDump.Script.Splitter

/-!
# Where a quoted literal ends

The reader of literals undoes the escapes of a body that is cut out already, and the
splitter finds the end of a quoted run on its way through a script. Both skip the symbol
behind a backslash and take two quotes for one, so a body can be undone exactly where the
splitter leaves the run at the quote behind the body and stays inside it until then.

Main statement: `unescape_iff_modes`.
-/

namespace SqlDump

namespace Script

/-- The modes of the scanner behind each symbol of a text. -/
def modesFrom : State → Text → List Mode
  | _, [] => []
  | state, symbol :: rest =>
      let after := (state.advance symbol rest.head?).2
      after.mode :: modesFrom after rest

/-- The modes of a splitter behind each symbol of a text. -/
def Splitter.modes : Splitter → Text → List Mode
  | _, [] => []
  | splitter, symbol :: rest =>
      let after := splitter.read symbol rest.head?
      after.state.mode :: after.modes rest

/-- A splitter follows the scanner, whatever it has collected. -/
theorem Splitter.modes_eq (splitter : Splitter) (content : Text) :
    splitter.modes content = modesFrom splitter.state content := by
  induction content generalizing splitter with
  | nil => rfl
  | cons symbol rest hypothesis =>
      rw [modes, modesFrom, hypothesis]
      rfl

/-- A verbatim state takes the next symbol without a look and returns to its mode. -/
theorem modesFrom_verbatim (mode : Mode) (symbol : Symbol) (rest : Text) :
    modesFrom { mode, verbatim := true } (symbol :: rest) = mode :: modesFrom { mode } rest := rfl

/-- Whether the scanner, inside a quoted run, leaves it at a quote behind a body and not
before. -/
def EndsRun (quote : Quote) (body : Text) : Prop :=
  modesFrom (.inside quote) (body ++ [quote.symbol]) =
    List.replicate body.length (.quoted quote) ++ [.normal]

namespace EndsRun

variable {quote : Quote}

theorem nil : EndsRun quote [] := by
  cases quote <;> rfl

/-- A symbol behind which the scanner is inside the run is passed over. -/
theorem cons_iff_of_advance {symbol : Symbol} {rest : Text}
    (stays : ((State.inside quote).advance symbol (rest ++ [quote.symbol]).head?).2 =
      .inside quote) :
    EndsRun quote (symbol :: rest) ↔ EndsRun quote rest := by
  rw [EndsRun, List.cons_append, modesFrom, stays, List.length_cons, List.replicate_succ,
    List.cons_append]
  exact List.cons_inj_right _

/-- Two symbols of which the first makes the second one verbatim are passed over. -/
theorem cons_cons_iff_of_advance {symbol second : Symbol} {rest : Text}
    (verbatim : ((State.inside quote).advance symbol (some second)).2 =
      { mode := .quoted quote, verbatim := true }) :
    EndsRun quote (symbol :: second :: rest) ↔ EndsRun quote rest := by
  rw [EndsRun, List.cons_append, List.cons_append, modesFrom, List.head?_cons, verbatim,
    modesFrom_verbatim, List.length_cons, List.length_cons, List.replicate_succ,
    List.replicate_succ, List.cons_append, List.cons_append, List.cons_inj_right,
    List.cons_inj_right]
  exact Iff.rfl

/-- A symbol behind which the scanner is out of the run ends it too early. -/
theorem not_cons_of_advance {symbol : Symbol} {rest : Text}
    (leaves : ((State.inside quote).advance symbol (rest ++ [quote.symbol]).head?).2 = .start) :
    ¬EndsRun quote (symbol :: rest) := by
  intro ends
  rw [EndsRun, List.cons_append, modesFrom, leaves, List.length_cons, List.replicate_succ,
    List.cons_append, List.cons.injEq] at ends
  exact nomatch ends.1

/-- The backslash at the end of a body takes the quote behind it into the run. -/
theorem not_backslash : ¬EndsRun quote [.char '\\'] := by
  unfold EndsRun
  cases quote <;> decide

/-- The quote at the end of a body makes a doubled quote with the one behind it. -/
theorem not_quote : ¬EndsRun quote [quote.symbol] := by
  unfold EndsRun
  cases quote <;> decide

end EndsRun

end Script

namespace Literal

open Script

/-- The escapes of a body can be undone exactly where the scanner stays inside the run up to
the quote behind it. Both go through the body by the same steps, so the induction is along
the steps of the reader. -/
theorem unescapeOnto_iff_endsRun (quote : Quote) (made : Text) (offset : Nat) (body : Text) :
    (∃ content, unescapeOnto quote.symbol made offset body = .ok content) ↔
      EndsRun quote body := by
  induction made, offset, body using unescapeOnto.induct quote.symbol with
  | case1 made offset => simp [unescapeOnto, EndsRun.nil]
  | case2 made offset => simp [unescapeOnto, EndsRun.not_backslash]
  | case3 made offset escaped rest hypothesis =>
      rw [unescapeOnto, if_pos rfl, hypothesis]
      exact (EndsRun.cons_cons_iff_of_advance rfl).symm
  | case4 made offset notBackslash =>
      simp [unescapeOnto, notBackslash, EndsRun.not_quote]
  | case5 made offset rest notBackslash hypothesis =>
      have verbatim : ((State.inside quote).advance quote.symbol (some quote.symbol)).2 =
          { mode := .quoted quote, verbatim := true } := by
        simp [State.advance, State.inside, advanceQuoted, notBackslash]
      rw [unescapeOnto, if_neg notBackslash, if_pos rfl]
      simp only [if_true]
      rw [hypothesis]
      exact (EndsRun.cons_cons_iff_of_advance verbatim).symm
  | case6 made offset next rest other notBackslash =>
      have leaves : ((State.inside quote).advance quote.symbol (some next)).2 = .start := by
        simp [State.advance, State.inside, State.start, advanceQuoted, notBackslash, other]
      have fails : unescapeOnto quote.symbol made offset (quote.symbol :: next :: rest) =
          .error (.bareQuote offset) := by
        simp [unescapeOnto, notBackslash, other]
      rw [fails]
      apply iff_of_false _ (EndsRun.not_cons_of_advance leaves)
      rintro ⟨content, undone⟩
      cases undone
  | case7 made offset symbol rest notBackslash notQuote hypothesis =>
      have stays : ((State.inside quote).advance symbol (rest ++ [quote.symbol]).head?).2 =
          .inside quote := by
        simp [State.advance, State.inside, advanceQuoted, notBackslash, notQuote]
      have step : unescapeOnto quote.symbol made offset (symbol :: rest) =
          unescapeOnto quote.symbol (symbol :: made) (offset + 1) rest := by
        rw [unescapeOnto.eq_def]
        simp only [if_neg notBackslash, if_neg notQuote]
      rw [step, hypothesis]
      exact (EndsRun.cons_iff_of_advance stays).symm

/-- A body can be undone exactly where a splitter in front of the quoted body takes all of it
as one run: it is inside from the opening quote on, and out of it behind the last quote. -/
theorem unescape_iff_modes (quote : Quote) (body : Text) (splitter : Splitter) :
    (∃ content, unescape quote.symbol body = .ok content) ↔
      (splitter.moveTo .start).modes (quote.symbol :: body ++ [quote.symbol]) =
        List.replicate (body.length + 1) (.quoted quote) ++ [.normal] := by
  have opens : (State.start.advance quote.symbol (body ++ [quote.symbol]).head?).2 =
      .inside quote := by
    cases quote <;> rfl
  have run : (splitter.moveTo .start).modes (quote.symbol :: body ++ [quote.symbol]) =
      .quoted quote :: modesFrom (.inside quote) (body ++ [quote.symbol]) := by
    rw [Splitter.modes_eq, List.cons_append]
    change modesFrom .start _ = _
    rw [modesFrom, opens]
    rfl
  rw [unescape, unescapeOnto_iff_endsRun, run, List.replicate_succ, List.cons_append,
    List.cons_inj_right]
  exact Iff.rfl

end Literal

end SqlDump
