import SqlDump.Text.Symbol

/-!
# Scanning a script

The scanner reads a script symbol by symbol and marks each one: it is kept, it
is a delimiter between statements, or it belongs to a line comment and gets no
mark. It tracks just enough to know which semicolons are delimiters: whether it
stands inside a comment or a quoted run, and whether the next symbol has to be
kept whatever it is. It looks one symbol ahead and accepts every text.

Main statements: `scan_cons` reads one symbol, and `scan_verbatim` reads one that
is kept whatever it is.
-/

namespace SqlDump.Script

/-- The three quotation marks. -/
inductive Quote where
  | single
  | double
  | backtick
  deriving DecidableEq, Repr

def Quote.symbol : Quote → Symbol
  | .single => .char '\''
  | .double => .char '"'
  | .backtick => .char '`'

/-- The quotation mark that a symbol is. -/
def Quote.ofSymbol? : Symbol → Option Quote
  | .char '\'' => some .single
  | .char '"' => some .double
  | .char '`' => some .backtick
  | _ => none

@[simp] theorem Quote.ofSymbol?_symbol (quote : Quote) :
    Quote.ofSymbol? quote.symbol = some quote := by
  cases quote <;> rfl

theorem Quote.symbol_of_ofSymbol? {symbol : Symbol} {quote : Quote}
    (found : Quote.ofSymbol? symbol = some quote) : symbol = quote.symbol := by
  unfold Quote.ofSymbol? at found
  split at found
  · cases found
    rfl
  · cases found
    rfl
  · cases found
    rfl
  · cases found

/-- Where the scanner stands. -/
inductive Mode where
  | normal
  | lineComment
  | blockComment
  | quoted (quote : Quote)
  deriving DecidableEq, Repr

/-- A mode, and whether the next symbol is kept without being looked at. -/
structure State where
  mode : Mode
  verbatim : Bool := false
  deriving DecidableEq, Repr

/-- The state at the beginning of a script. -/
def State.start : State := { mode := .normal }

/-- What a symbol of the script is for its statements. -/
inductive Mark where
  | kept (symbol : Symbol)
  | delimiter
  deriving DecidableEq, Repr

def Mark.isDelimiter : Mark → Bool
  | .kept _ => false
  | .delimiter => true

def Mark.symbol? : Mark → Option Symbol
  | .kept symbol => some symbol
  | .delimiter => none

/-- One symbol outside comments and quoted runs, with the symbol after it. -/
def advanceNormal (symbol : Symbol) (next : Option Symbol) : Option Mark × State :=
  if symbol = .char '-' ∧ next = some (.char '-') then (none, { mode := .lineComment })
  else if symbol = .char '#' then (none, { mode := .lineComment })
  else if symbol = .char '/' ∧ next = some (.char '*') then
    (some (.kept symbol), { mode := .blockComment, verbatim := true })
  else if symbol = .char ';' then (some .delimiter, { mode := .normal })
  else
    match Quote.ofSymbol? symbol with
    | some quote => (some (.kept symbol), { mode := .quoted quote })
    | none => (some (.kept symbol), { mode := .normal })

/-- One symbol of a line comment; the newline ends it and is kept. -/
def advanceLineComment (symbol : Symbol) : Option Mark × State :=
  if symbol = .char '\n' then (some (.kept symbol), { mode := .normal })
  else (none, { mode := .lineComment })

/-- One symbol of a block comment, which is kept up to the closing slash. -/
def advanceBlockComment (symbol : Symbol) (next : Option Symbol) : Option Mark × State :=
  if symbol = .char '*' ∧ next = some (.char '/') then
    (some (.kept symbol), { mode := .normal, verbatim := true })
  else (some (.kept symbol), { mode := .blockComment })

/-- One symbol of a quoted run. A backslash keeps the symbol after it, a doubled
quote stands for itself, and a single one closes the run. -/
def advanceQuoted (quote : Quote) (symbol : Symbol) (next : Option Symbol) :
    Option Mark × State :=
  if symbol = .char '\\' then (some (.kept symbol), { mode := .quoted quote, verbatim := true })
  else if symbol = quote.symbol then
    if next = some quote.symbol then
      (some (.kept symbol), { mode := .quoted quote, verbatim := true })
    else (some (.kept symbol), { mode := .normal })
  else (some (.kept symbol), { mode := .quoted quote })

/-- One symbol, with the symbol after it: its mark, and the state behind it. -/
def State.advance (state : State) (symbol : Symbol) (next : Option Symbol) :
    Option Mark × State :=
  if state.verbatim then (some (.kept symbol), { mode := state.mode })
  else
    match state.mode with
    | .normal => advanceNormal symbol next
    | .lineComment => advanceLineComment symbol
    | .blockComment => advanceBlockComment symbol next
    | .quoted quote => advanceQuoted quote symbol next

/-- The marks of a text and the state behind it. -/
structure Scan where
  marks : List Mark
  final : State
  deriving DecidableEq, Repr

/-- Scans a text in front of which the marks `made` stand already, newest first. -/
def scanOnto (made : List Mark) : State → Text → Scan
  | state, [] => { marks := made.reverse, final := state }
  | state, symbol :: rest =>
      let (mark, after) := state.advance symbol rest.head?
      scanOnto (mark.toList ++ made) after rest

/-- The scan of a text from a state. -/
def scan (state : State) (content : Text) : Scan :=
  scanOnto [] state content

theorem scanOnto_eq (made : List Mark) (state : State) (content : Text) :
    scanOnto made state content =
      { marks := made.reverse ++ (scan state content).marks
        final := (scan state content).final } := by
  induction content generalizing made state with
  | nil => simp [scanOnto, scan]
  | cons symbol rest hypothesis =>
      simp only [scanOnto, scan]
      rw [hypothesis, hypothesis ((state.advance symbol rest.head?).1.toList ++ [])]
      cases (state.advance symbol rest.head?).1 <;> simp

@[simp] theorem scan_nil (state : State) : scan state [] = { marks := [], final := state } := rfl

/-- A scan puts the mark of the first symbol in front of the scan of the others. -/
theorem scan_cons (state : State) (symbol : Symbol) (rest : Text) :
    scan state (symbol :: rest) =
      { marks := (state.advance symbol rest.head?).1.toList ++
          (scan (state.advance symbol rest.head?).2 rest).marks
        final := (scan (state.advance symbol rest.head?).2 rest).final } := by
  simp only [scan, scanOnto]
  rw [scanOnto_eq]
  cases (state.advance symbol rest.head?).1 <;> simp [scan]

/-- A verbatim state keeps the next symbol and returns to its mode. -/
theorem scan_verbatim (mode : Mode) (symbol : Symbol) (rest : Text) :
    scan { mode, verbatim := true } (symbol :: rest) =
      { marks := .kept symbol :: (scan { mode } rest).marks
        final := (scan { mode } rest).final } := by
  simp [scan_cons, State.advance]

end SqlDump.Script
