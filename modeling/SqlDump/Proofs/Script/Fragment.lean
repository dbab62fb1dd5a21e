import SqlDump.Proofs.Script.Step
import SqlDump.Script.Statements

/-!
# Fragments of a script

The scanner looks one symbol ahead, so a script cannot be scanned piece by piece
at every place. It can wherever the second piece starts with a symbol that no
mark of two symbols has in second place. A fragment is whole when the scanner,
outside comments and quoted runs, keeps all of it and comes back to where it was.

Main statements: `scan_append` scans two pieces one after the other, and
`Whole.append` puts whole fragments together.
-/

namespace SqlDump.Script

/-! ## Scans in front of scans -/

/-- A scan behind further marks. -/
def Scan.behind (marks : List Mark) (scan : Scan) : Scan :=
  { scan with marks := marks ++ scan.marks }

@[simp] theorem Scan.behind_marks (marks : List Mark) (scan : Scan) :
    (scan.behind marks).marks = marks ++ scan.marks := rfl

@[simp] theorem Scan.behind_final (marks : List Mark) (scan : Scan) :
    (scan.behind marks).final = scan.final := rfl

@[simp] theorem Scan.behind_nil (scan : Scan) : scan.behind [] = scan := rfl

@[simp] theorem Scan.behind_behind (first second : List Mark) (scan : Scan) :
    (scan.behind second).behind first = scan.behind (first ++ second) := by
  simp [behind]

/-- The marks of a text that is kept. -/
def kept (content : Text) : List Mark :=
  content.map .kept

@[simp] theorem kept_nil : kept [] = [] := rfl

@[simp] theorem kept_cons (symbol : Symbol) (rest : Text) :
    kept (symbol :: rest) = .kept symbol :: kept rest := rfl

@[simp] theorem kept_append (left right : Text) : kept (left ++ right) = kept left ++ kept right :=
  List.map_append

theorem scan_step (state : State) (symbol : Symbol) (rest : Text) :
    scan state (symbol :: rest) =
      (scan (state.advance symbol rest.head?).2 rest).behind
        (state.advance symbol rest.head?).1.toList :=
  scan_cons state symbol rest

theorem scan_verbatim_step (mode : Mode) (symbol : Symbol) (rest : Text) :
    scan { mode, verbatim := true } (symbol :: rest) =
      (scan { mode } rest).behind [.kept symbol] :=
  scan_verbatim mode symbol rest

/-! ## Symbols that look back -/

/-- Whether a symbol is the second one of some mark of two symbols: a comment's
beginning or end, or a doubled quote. -/
def isSecond (symbol : Symbol) : Bool :=
  symbol = .char '-' || symbol = .char '*' || symbol = .char '/' ||
    (Quote.ofSymbol? symbol).isSome

/-- Whether a text is nothing or starts with a symbol that looks back at none. -/
def StartsApart (content : Text) : Prop :=
  ∀ symbol ∈ content.head?, isSecond symbol = false

@[simp] theorem startsApart_nil : StartsApart [] := by
  simp [StartsApart]

@[simp] theorem startsApart_cons {symbol : Symbol} {rest : Text} :
    StartsApart (symbol :: rest) ↔ isSecond symbol = false := by
  simp [StartsApart]

theorem StartsApart.append {left right : Text} (leftApart : StartsApart left)
    (rightApart : StartsApart right) : StartsApart (left ++ right) := by
  cases left with
  | nil => exact rightApart
  | cons symbol rest => simpa using leftApart

/-- A symbol that looks back at none is to the scanner like the end of the script. -/
theorem advance_of_isSecond_eq_false (state : State) (symbol : Symbol) {next : Symbol}
    (apart : isSecond next = false) :
    state.advance symbol (some next) = state.advance symbol none := by
  simp only [isSecond, Bool.or_eq_false_iff, decide_eq_false_iff_not] at apart
  obtain ⟨⟨⟨notDash, notStar⟩, notSlash⟩, notQuote⟩ := apart
  have notSymbol : ∀ quote : Quote, next ≠ quote.symbol := by
    rintro quote rfl
    simp at notQuote
  obtain ⟨mode, verbatim⟩ := state
  cases verbatim with
  | true => rfl
  | false =>
      cases mode with
      | normal => simp [State.advance, advanceNormal, notDash, notStar]
      | lineComment => rfl
      | blockComment => simp [State.advance, advanceBlockComment, notSlash]
      | quoted quote => simp [State.advance, advanceQuoted, notSymbol quote]

/-- Two pieces are scanned one after the other where the second one starts apart. -/
theorem scan_append (state : State) (left : Text) {right : Text} (apart : StartsApart right) :
    scan state (left ++ right) =
      (scan (scan state left).final right).behind (scan state left).marks := by
  induction left generalizing state with
  | nil => rfl
  | cons symbol rest hypothesis =>
      -- What the scanner sees after `symbol` is the same with and without `right`.
      have sameAdvance : state.advance symbol (rest ++ right).head? =
          state.advance symbol rest.head? := by
        cases rest with
        | cons next others => rfl
        | nil =>
            cases right with
            | nil => rfl
            | cons next others =>
                exact advance_of_isSecond_eq_false state symbol (by simpa using apart)
      rw [List.cons_append, scan_step, scan_step state symbol rest, sameAdvance, hypothesis]
      simp

/-! ## The end of a text -/

/-- Outside comments and quoted runs a symbol still to be kept is the slash of a
closing mark, which is there. -/
theorem ne_none_of_advance_verbatim {state : State} {symbol : Symbol} {next : Option Symbol}
    (waits : (state.advance symbol next).2.verbatim = true)
    (normal : (state.advance symbol next).2.mode = .normal) : next ≠ none := by
  obtain ⟨mark, after, advance, step⟩ := exists_step state symbol next
  rw [advance] at waits normal
  cases step with
  | endBlock => exact Option.some_ne_none _
  | _ => simp [State.start, State.inside] at waits normal

/-- A text that ends outside comments and quoted runs leaves no symbol to be kept. -/
theorem final_verbatim_of_normal (state : State) (content : Text)
    (follows : state.verbatim = true → state.mode = .normal → content ≠ [])
    (normal : (scan state content).final.mode = .normal) :
    (scan state content).final.verbatim = false := by
  induction content generalizing state with
  | nil =>
      cases waits : state.verbatim with
      | true => exact absurd rfl (follows waits normal)
      | false => exact waits
  | cons symbol rest hypothesis =>
      rw [scan_step] at normal ⊢
      refine hypothesis _ (fun waits stays => ?_) normal
      rintro rfl
      exact ne_none_of_advance_verbatim waits stays rfl

/-- A script that ends outside comments and quoted runs ends where it started. -/
theorem final_eq_start {script : Text} (normal : (scan .start script).final.mode = .normal) :
    (scan .start script).final = .start := by
  have kept := final_verbatim_of_normal .start script (by simp [State.start]) normal
  cases final : (scan .start script).final with
  | mk mode verbatim =>
      rw [final] at normal kept
      simp only at normal kept
      rw [normal, kept]
      rfl

/-! ## Whole fragments -/

/-- Whether the scanner, outside comments and quoted runs, keeps all of a fragment
and returns to where it was, whatever follows apart from it. -/
def Whole (fragment : Text) : Prop :=
  ∀ rest, StartsApart rest →
    scan .start (fragment ++ rest) = (scan .start rest).behind (kept fragment)

@[simp] theorem whole_nil : Whole [] := fun _ _ => rfl

theorem Whole.append {left right : Text} (leftWhole : Whole left) (apart : StartsApart right)
    (rightWhole : Whole right) : Whole (left ++ right) := by
  intro rest restApart
  rw [List.append_assoc, leftWhole _ (apart.append restApart), rightWhole rest restApart]
  simp

/-- Whether a symbol outside comments and quoted runs is kept and changes nothing,
whatever follows it. -/
def isPlain (symbol : Symbol) : Bool :=
  symbol ≠ .char '-' && symbol ≠ .char '#' && symbol ≠ .char '/' && symbol ≠ .char ';' &&
    (Quote.ofSymbol? symbol).isNone

theorem advance_of_isPlain {symbol : Symbol} (plain : isPlain symbol = true)
    (next : Option Symbol) :
    State.start.advance symbol next = (some (.kept symbol), .start) := by
  simp only [isPlain, Bool.and_eq_true, decide_eq_true_eq, Option.isNone_iff_eq_none] at plain
  obtain ⟨⟨⟨⟨notDash, notHash⟩, notSlash⟩, notDelimiter⟩, notQuote⟩ := plain
  simp [State.advance, State.start, advanceNormal, notDash, notHash, notSlash, notDelimiter,
    notQuote]

/-- Plain symbols are kept in front of every text. -/
theorem scan_plain {fragment : Text} (plain : fragment.all isPlain = true) (rest : Text) :
    scan .start (fragment ++ rest) = (scan .start rest).behind (kept fragment) := by
  induction fragment with
  | nil => rfl
  | cons symbol others hypothesis =>
      simp only [List.all_cons, Bool.and_eq_true] at plain
      rw [List.cons_append, scan_step, advance_of_isPlain plain.1, hypothesis plain.2]
      simp

theorem whole_plain {fragment : Text} (plain : fragment.all isPlain = true) :
    Whole fragment :=
  fun rest _ => scan_plain plain rest

theorem Whole.plain_append {front fragment : Text} (plain : front.all isPlain = true)
    (whole : Whole fragment) : Whole (front ++ fragment) := by
  intro rest apart
  rw [List.append_assoc, scan_plain plain, whole rest apart]
  simp

/-- A dash in front of plain symbols begins no comment. -/
theorem whole_dash {symbol : Symbol} {fragment : Text}
    (plain : (symbol :: fragment).all isPlain = true) :
    Whole (.char '-' :: symbol :: fragment) := by
  intro rest _
  have notDash : symbol ≠ .char '-' := by
    rintro rfl
    simp [isPlain] at plain
  have dash : State.start.advance (.char '-') (some symbol) =
      (some (.kept (.char '-')), .start) := by
    simp [State.advance, State.start, advanceNormal, notDash, Quote.ofSymbol?]
  rw [List.cons_append, scan_step]
  simp only [List.cons_append, List.head?_cons, dash]
  rw [← List.cons_append, scan_plain plain]
  simp

/-! ## Quoted runs -/

/-- A quote opens a quoted run. -/
theorem scan_open (quote : Quote) (rest : Text) :
    scan .start (quote.symbol :: rest) =
      (scan (.inside quote) rest).behind [.kept quote.symbol] := by
  rw [scan_step]
  cases quote <;> rfl

/-- A quote closes its run where it is not doubled. -/
theorem scan_close (quote : Quote) {rest : Text} (apart : StartsApart rest) :
    scan (.inside quote) (quote.symbol :: rest) =
      (scan .start rest).behind [.kept quote.symbol] := by
  have notDoubled : rest.head? ≠ some quote.symbol := by
    intro doubled
    have second := apart quote.symbol doubled
    simp [isSecond] at second
  have notBackslash : quote.symbol ≠ .char '\\' := by
    cases quote <;> decide
  rw [scan_step]
  simp [State.advance, State.inside, State.start, advanceQuoted, notBackslash, notDoubled]

/-- Inside a run a backslash keeps itself and the symbol after it. -/
theorem scan_escaped (quote : Quote) (escaped : Symbol) (rest : Text) :
    scan (.inside quote) (.char '\\' :: escaped :: rest) =
      (scan (.inside quote) rest).behind [.kept (.char '\\'), .kept escaped] := by
  rw [scan_step]
  simp [State.advance, State.inside, advanceQuoted, scan_verbatim_step]

theorem scan_doubled (quote : Quote) (rest : Text) :
    scan (.inside quote) (quote.symbol :: quote.symbol :: rest) =
      (scan (.inside quote) rest).behind [.kept quote.symbol, .kept quote.symbol] := by
  have notBackslash : quote.symbol ≠ .char '\\' := by
    cases quote <;> decide
  rw [scan_step]
  simp [State.advance, State.inside, advanceQuoted, notBackslash, scan_verbatim_step]

/-- Inside a run every symbol but the backslash and the quote is kept. -/
theorem scan_content {quote : Quote} {symbol : Symbol} (notBackslash : symbol ≠ .char '\\')
    (notQuote : symbol ≠ quote.symbol) (rest : Text) :
    scan (.inside quote) (symbol :: rest) =
      (scan (.inside quote) rest).behind [.kept symbol] := by
  rw [scan_step]
  simp [State.advance, State.inside, advanceQuoted, notBackslash, notQuote]

/-- Whether the scanner keeps all of a body inside a quoted run and stays in it. -/
def Enclosed (quote : Quote) (body : Text) : Prop :=
  ∀ rest, scan (.inside quote) (body ++ rest) = (scan (.inside quote) rest).behind (kept body)

@[simp] theorem enclosed_nil (quote : Quote) : Enclosed quote [] := fun _ => rfl

theorem Enclosed.append {quote : Quote} {left right : Text} (leftEnclosed : Enclosed quote left)
    (rightEnclosed : Enclosed quote right) : Enclosed quote (left ++ right) := by
  intro rest
  rw [List.append_assoc, leftEnclosed, rightEnclosed]
  simp

theorem enclosed_flatMap {quote : Quote} {content : Text} {written : Symbol → Text}
    (each : ∀ symbol ∈ content, Enclosed quote (written symbol)) :
    Enclosed quote (content.flatMap written) := by
  induction content with
  | nil => simp
  | cons symbol rest hypothesis =>
      rw [List.flatMap_cons]
      exact (each symbol (by simp)).append
        (hypothesis fun other member => each other (by simp [member]))

/-- An enclosed body between its quotes is whole. -/
theorem Enclosed.whole {quote : Quote} {body : Text} (enclosed : Enclosed quote body) :
    Whole (quote.symbol :: body ++ [quote.symbol]) := by
  intro rest apart
  have regroup : quote.symbol :: body ++ [quote.symbol] ++ rest =
      quote.symbol :: (body ++ quote.symbol :: rest) := by simp
  rw [regroup, scan_open, enclosed, scan_close quote apart]
  simp

end SqlDump.Script
