import SqlDump.Command.Run
import SqlDump.Proofs.Script.Seen

/-!
# Statements as scripts

A script loses its line comments and the blanks around its statements, and what is left of it
can be split again. Between two delimiters the scanner does with the kept symbols what it did
with them the first time: where a line comment was there is a newline or nothing, which is the
second symbol of no mark, and blanks open and close nothing. So all pieces of a script but the
last end where a script begins, and the last one ends where the script ends, or outside where
that is a line comment.

Main statements: `keptApart_pieces` for the pieces of a script, `resplits_statements` for
its statements, and `statements_normalForm`.
-/

namespace SqlDump.Script

/-! ## Pieces that are read again -/

/-- The mode in which a piece is read again that has lost its line comments. -/
def Mode.settled : Mode → Mode
  | .lineComment => .normal
  | mode => mode

def State.settled (state : State) : State :=
  { state with mode := state.mode.settled }

/-- Behind a line comment a piece goes on with the newline. -/
theorem startsApart_firstPiece_lineComment (content : Text) :
    StartsApart (firstPiece (scan { mode := .lineComment } content).marks) := by
  induction content with
  | nil => exact startsApart_nil
  | cons symbol rest hypothesis =>
      rw [scan_step]
      by_cases newline : symbol = .char '\n'
      · rw [newline]
        exact startsApart_cons.mpr (by decide)
      · simpa [State.advance, advanceLineComment, newline] using hypothesis

/-- A piece goes on with the next symbol of the script, or with one that looks back at none. -/
theorem firstPiece_goes_on (state : State) (content : Text) :
    (firstPiece (scan state content).marks).head? = content.head? ∨
      state.verbatim = false ∧ StartsApart (firstPiece (scan state content).marks) := by
  cases content with
  | nil => exact .inl rfl
  | cons symbol rest =>
      obtain ⟨mark, after, advance, step⟩ := exists_step state symbol rest.head?
      generalize rest.head? = next at step
      rw [scan_step, advance, Scan.behind_marks]
      cases step with
      | beginLine => exact .inr ⟨rfl, startsApart_firstPiece_lineComment rest⟩
      | inLine => exact .inr ⟨rfl, startsApart_firstPiece_lineComment rest⟩
      | delimiter => exact .inr ⟨rfl, startsApart_nil⟩
      | _ => exact .inl rfl

/-- A kept symbol does the same in front of the rest of its piece as in front of the rest of
the script. -/
theorem Step.settled {state after : State} {symbol : Symbol} {next again : Option Symbol}
    (step : Step state symbol next (some (.kept symbol)) after)
    (seen : again = next ∨ after.verbatim = false ∧ ∀ other ∈ again, isSecond other = false) :
    state.settled.advance symbol again = (some (.kept symbol), after.settled) := by
  have notAgain {other : Symbol} (second : isSecond other = true) (differs : next ≠ some other) :
      again ≠ some other := by
    rcases seen with rfl | ⟨-, apart⟩
    · exact differs
    · intro same
      have notSecond := apart other same
      rw [second] at notSecond
      cases notSecond
  have sameAgain (waits : after.verbatim = true) : again = next := by
    rcases seen with same | ⟨stays, -⟩
    · exact same
    · rw [waits] at stays
      cases stays
  cases step with
  | verbatim mode => exact (Step.verbatim mode.settled symbol again).advance_eq
  | beginBlock => exact sameAgain rfl ▸ Step.beginBlock.advance_eq
  | openQuote quote => exact (Step.openQuote quote again).advance_eq
  | plain noLine noBlock notDelimiter noQuote =>
      refine (Step.plain ?_ ?_ notDelimiter noQuote).advance_eq
      · rintro (⟨dash, dashAgain⟩ | hash)
        · exact notAgain (by decide) (fun same => noLine (.inl ⟨dash, same⟩)) dashAgain
        · exact noLine (.inr hash)
      · rintro ⟨slash, starAgain⟩
        exact notAgain (by decide) (fun same => noBlock ⟨slash, same⟩) starAgain
  | endLine => exact advance_of_isPlain (by decide) again
  | endBlock => exact sameAgain rfl ▸ Step.endBlock.advance_eq
  | inBlock notEnd =>
      refine (Step.inBlock ?_).advance_eq
      rintro ⟨star, slashAgain⟩
      exact notAgain (by decide) (fun same => notEnd ⟨star, same⟩) slashAgain
  | escape quote => exact (Step.escape quote again).advance_eq
  | double quote => exact sameAgain rfl ▸ (Step.double quote).advance_eq
  | closeQuote quote single =>
      have second : isSecond quote.symbol = true := by cases quote <;> decide
      exact (Step.closeQuote quote (notAgain second single)).advance_eq
  | inQuote quote notBackslash notQuote =>
      exact (Step.inQuote quote notBackslash notQuote).advance_eq

/-- Pieces that the scanner, beginning in a state, keeps whole one by one when each is read for
itself, and the state behind the last one. All others end where a script begins. -/
inductive KeptApart : State → List Text → State → Prop
  | last {state final : State} {piece : Text}
      (scanned : scan state piece = { marks := kept piece, final }) :
      KeptApart state [piece] final
  | cons {state final : State} {piece : Text} {others : List Text}
      (scanned : scan state piece = { marks := kept piece, final := .start })
      (rest : KeptApart .start others final) : KeptApart state (piece :: others) final

/-- A symbol that is kept goes in front of the first piece. -/
theorem KeptApart.kept_cons {state after final : State} {symbol : Symbol} {piece : Text}
    {others : List Text} (apart : KeptApart after (piece :: others) final)
    (advance : state.advance symbol piece.head? = (some (.kept symbol), after)) :
    KeptApart state ((symbol :: piece) :: others) final := by
  have inFront {scanned : Scan} (read : scan after piece = scanned) :
      scan state (symbol :: piece) = scanned.behind [.kept symbol] := by
    rw [scan_step, advance, read]
    rfl
  cases apart with
  | last scanned => exact .last (inFront scanned)
  | cons scanned rest => exact .cons (inFront scanned) rest

/-- The pieces of a script are kept whole when they are read again. -/
theorem keptApart_pieces (state : State) (content : Text) :
    KeptApart state.settled (pieces (scan state content).marks)
      (scan state content).final.settled := by
  induction content generalizing state with
  | nil => exact .last rfl
  | cons symbol rest hypothesis =>
      obtain ⟨mark, after, advance, step⟩ := exists_step state symbol rest.head?
      have apart := hypothesis after
      obtain ⟨others, split⟩ := pieces_eq_cons (scan after rest).marks
      have keeps (sameMark : mark = some (.kept symbol)) :
          KeptApart state.settled (pieces (.kept symbol :: (scan after rest).marks))
            (scan after rest).final.settled := by
        subst sameMark
        rw [pieces_kept_cons, split, List.modifyHead_cons]
        rw [split] at apart
        exact apart.kept_cons (step.settled (firstPiece_goes_on after rest))
      rw [scan_step, advance, Scan.behind_marks, Scan.behind_final]
      generalize rest.head? = next at step
      cases step with
      | beginLine => exact apart
      | inLine => exact apart
      | delimiter =>
          rw [Option.toList_some, List.singleton_append, pieces_delimiter_cons]
          exact .cons rfl apart
      | _ => exact keeps rfl

/-! ## Trimmed pieces -/

/-- A blank is kept outside comments and quoted runs, and changes nothing. -/
theorem isPlain_of_isBlank {symbol : Symbol} (blank : symbol.isBlank = true) :
    isPlain symbol = true := by
  have different {other : Symbol} (visible : other.isBlank = false) : symbol ≠ other := by
    rintro rfl
    rw [blank] at visible
    cases visible
  have noQuote : Quote.ofSymbol? symbol = none := by
    cases found : Quote.ofSymbol? symbol with
    | none => rfl
    | some quote =>
        refine absurd (Quote.symbol_of_ofSymbol? found) (different ?_)
        cases quote <;> decide
  have notDash : symbol ≠ .char '-' := different (by decide)
  have notHash : symbol ≠ .char '#' := different (by decide)
  have notSlash : symbol ≠ .char '/' := different (by decide)
  have notDelimiter : symbol ≠ .char ';' := different (by decide)
  simp [isPlain, notDash, notHash, notSlash, notDelimiter, noQuote]

theorem isSecond_of_isBlank {symbol : Symbol} (blank : symbol.isBlank = true) :
    isSecond symbol = false := by
  have plain := isPlain_of_isBlank blank
  have notStar : symbol ≠ .char '*' := by
    rintro rfl
    revert blank
    decide
  simp only [isPlain, Bool.and_eq_true, decide_eq_true_eq, Option.isNone_iff_eq_none] at plain
  simp [isSecond, plain, notStar]

theorem startsApart_of_isBlank {blanks : Text} (blank : ∀ symbol ∈ blanks, symbol.isBlank = true) :
    StartsApart blanks :=
  fun _ first => isSecond_of_isBlank (blank _ (List.mem_of_mem_head? first))

/-- There are no more marks than symbols. -/
theorem length_marks_le (state : State) (content : Text) :
    (scan state content).marks.length ≤ content.length := by
  induction content generalizing state with
  | nil => exact Nat.le_refl 0
  | cons symbol rest hypothesis =>
      have others := hypothesis (state.advance symbol rest.head?).2
      have first : (state.advance symbol rest.head?).1.toList.length ≤ 1 := by
        cases (state.advance symbol rest.head?).1 <;> simp
      rw [scan_step, Scan.behind_marks, List.length_append, List.length_cons]
      omega

/-- What is kept together with something behind it is kept. -/
theorem marks_eq_kept_of_append {state : State} {left right : Text} (apart : StartsApart right)
    (whole : (scan state (left ++ right)).marks = kept (left ++ right)) :
    (scan state left).marks = kept left := by
  have atMostLeft := length_marks_le state left
  have atMostRight := length_marks_le (scan state left).final right
  rw [scan_append state left apart, Scan.behind_marks, kept_append] at whole
  have lengths := congrArg List.length whole
  simp only [List.length_append, kept, List.length_map] at lengths
  exact List.append_inj_left whole (by simp only [kept, List.length_map]; omega)

/-- A text of which everything is kept does not end in a line comment. -/
theorem mode_ne_lineComment_of_kept {state : State} {content : Text}
    (outside : state.mode ≠ .lineComment) (whole : (scan state content).marks = kept content) :
    (scan state content).final.mode ≠ .lineComment := by
  intro comment
  have fewer := shown_lt_of_lineComment outside comment
  rw [shown, whole, keptOf_kept] at fewer
  exact Nat.lt_irrefl _ fewer

/-- Blanks begin and end nothing but line comments. -/
theorem mode_final_of_isBlank {state : State} {blanks : Text}
    (blank : ∀ symbol ∈ blanks, symbol.isBlank = true) (outside : state.mode ≠ .lineComment) :
    (scan state blanks).final.mode = state.mode := by
  induction blanks generalizing state with
  | nil => rfl
  | cons symbol rest hypothesis =>
      have first : symbol.isBlank = true := blank symbol (by simp)
      have others : ∀ other ∈ rest, other.isBlank = true := fun other member =>
        blank other (by simp [member])
      have stays : (state.advance symbol rest.head?).2.mode = state.mode := by
        obtain ⟨mark, after, advance, step⟩ := exists_step state symbol rest.head?
        rw [advance]
        generalize rest.head? = next at step
        cases step with
        | beginLine begins =>
            rcases begins with ⟨rfl, -⟩ | rfl <;> revert first <;> decide
        | beginBlock => revert first; decide
        | openQuote quote => revert first; cases quote <;> decide
        | endLine => exact absurd rfl outside
        | endBlock => revert first; decide
        | closeQuote quote => revert first; cases quote <;> decide
        | _ => rfl
      rw [scan_step, Scan.behind_final, hypothesis others (stays ▸ outside), stays]

/-- Trimming a piece of which everything is kept leaves a text of which everything is kept,
and closes nothing. -/
theorem scan_strip {piece : Text} (whole : (scan .start piece).marks = kept piece) :
    (scan .start (Text.strip piece)).marks = kept (Text.strip piece) ∧
      (scan .start (Text.strip piece)).final.mode = (scan .start piece).final.mode := by
  obtain ⟨front, back, split, frontBlank, backBlank⟩ := Text.exists_eq_append_strip piece
  have plain : front.all isPlain = true :=
    List.all_eq_true.mpr fun symbol member => isPlain_of_isBlank (frontBlank symbol member)
  have apart := startsApart_of_isBlank backBlank
  generalize Text.strip piece = trimmed at split ⊢
  subst split
  rw [scan_plain plain, Scan.behind_marks, kept_append, List.append_cancel_left_eq] at whole
  have trimmedWhole := marks_eq_kept_of_append apart whole
  have outside := mode_ne_lineComment_of_kept (by simp [State.start]) trimmedWhole
  refine ⟨trimmedWhole, ?_⟩
  rw [scan_plain plain, Scan.behind_final, scan_append _ _ apart, Scan.behind_final,
    mode_final_of_isBlank backBlank outside]

/-- A trimmed text of which everything is kept is its own statement. -/
theorem statements_of_kept {content : Text} (whole : (scan .start content).marks = kept content)
    (nonempty : content ≠ []) (trimmed : Text.strip content = content) :
    statements content = [content] := by
  have visible : Text.strip content ≠ [] := by rwa [trimmed]
  rw [statements_eq, whole, pieces_kept, statementsOf_singleton visible, trimmed]

/-! ## Statements -/

theorem mem_statementsOf {statement : Text} {found : List Text} :
    statement ∈ statementsOf found ↔
      statement ≠ [] ∧ ∃ piece ∈ found, Text.strip piece = statement := by
  simp [statementsOf, and_comm]

/-- Statements that are split again as they are, alone and one a line. All but the last stand
alone, and the last one does too where they are closed. -/
structure Resplits (found : List Text) (closed : Prop) : Prop where
  alone : ∀ statement ∈ found, statements statement = [statement]
  front : ∀ statement ∈ found.dropLast, StandsAlone statement
  whole_iff : (∀ statement ∈ found, StandsAlone statement) ↔ closed

/-- The statement of a piece of which everything is kept is closed where the piece ends outside
comments and quoted runs. -/
theorem resplits_singleton {piece : Text} {final : State}
    (scanned : scan .start piece = { marks := kept piece, final }) :
    Resplits (statementsOf [piece]) (final.mode = .normal) := by
  obtain ⟨whole, sameMode⟩ := @scan_strip piece (by rw [scanned])
  rw [scanned] at sameMode
  by_cases empty : Text.strip piece = []
  · -- Blanks alone do not open anything.
    have none : statementsOf [piece] = [] := by simp [statementsOf, empty]
    have normal : final.mode = .normal := by
      rw [← sameMode, empty]
      rfl
    rw [none]
    exact ⟨by simp, by simp, by simp [normal]⟩
  · have alone := statements_of_kept whole empty (Text.strip_strip piece)
    rw [statementsOf_singleton empty]
    refine ⟨by simpa using alone, by simp, ?_⟩
    rw [List.forall_mem_singleton, ← sameMode]
    exact ⟨StandsAlone.normal, fun normal => ⟨normal, alone⟩⟩

/-- Statements that stand alone may be put in front of others. -/
theorem Resplits.append {first found : List Text} {closed : Prop}
    (each : ∀ statement ∈ first, StandsAlone statement) (others : Resplits found closed) :
    Resplits (first ++ found) closed := by
  obtain ⟨alone, front, whole_iff⟩ := others
  refine ⟨?_, ?_, ?_⟩
  · rw [List.forall_mem_append]
    exact ⟨fun statement member => (each statement member).alone, alone⟩
  · intro statement member
    rw [List.dropLast_append] at member
    split at member
    next => exact each statement (List.dropLast_subset _ member)
    next => exact (List.mem_append.mp member).elim (each statement) (front statement)
  · rw [List.forall_mem_append, and_iff_right each, whole_iff]

/-- The statements of pieces that are kept apart. -/
theorem KeptApart.resplits {state final : State} {found : List Text}
    (apart : KeptApart state found final) (start : state = .start) :
    Resplits (statementsOf found) (final.mode = .normal) := by
  induction apart with
  | last scanned =>
      subst start
      exact resplits_singleton scanned
  | @cons state final piece others scanned rest hypothesis =>
      subst start
      have split : statementsOf (piece :: others) = statementsOf [piece] ++ statementsOf others :=
        statementsOf_append [piece] others
      rw [split]
      exact (hypothesis rfl).append ((resplits_singleton scanned).whole_iff.mpr rfl)

theorem resplits_statements (script : Text) :
    Resplits (statements script) ((scan .start script).final.mode.settled = .normal) := by
  rw [statements_eq]
  exact (keptApart_pieces .start script).resplits rfl

/-! ## Statements one after another -/

/-- A statement that a delimiter ends stands alone: inside comments and quoted runs the delimiter
would be a part of it. -/
theorem standsAlone_of_line {statement : Text} (alone : statements statement = [statement])
    (line : statements (statement ++ text ";\n") = [statement]) : StandsAlone statement := by
  refine ⟨by_contra fun inside => ?_, alone⟩
  have bare : Text.visible statement = Text.visible (keptOf (scan .start statement).marks) := by
    have seen := visible_statements statement
    rw [alone] at seen
    simpa using seen
  have same := visible_of_statements_terminator line
  rw [bare, List.self_eq_append_right] at same
  rcases marks_terminator inside with bothKept | ⟨comment, -⟩
  · rw [bothKept, keptOf_kept] at same
    exact absurd same (by decide)
  · have fewer := shown_lt_of_lineComment (by simp [State.start]) comment
    rw [shown, ← bare] at fewer
    exact Nat.lt_irrefl _ fewer

namespace Resplits

variable {found : List Text} {closed : Prop}

/-- Delimiters between the statements separate them. -/
theorem statements_intercalate (resplits : Resplits found closed) :
    statements ((text ";\n").intercalate found) = found := by
  obtain ⟨alone, front, -⟩ := resplits
  induction found with
  | nil => rfl
  | cons first rest hypothesis =>
      rw [List.forall_mem_cons] at alone
      cases rest with
      | nil =>
          rw [List.intercalate_singleton]
          exact alone.1
      | cons second others =>
          rw [List.dropLast_cons_cons, List.forall_mem_cons] at front
          rw [List.intercalate_cons_cons, front.1.emits_line, hypothesis alone.2 front.2]
          rfl

/-- Delimiters behind the statements separate them where the last one is closed, and else are
a part of it. -/
theorem statements_lines_iff (resplits : Resplits found closed) :
    statements (found.flatMap fun statement => statement ++ text ";\n") = found ↔ closed := by
  rw [← resplits.whole_iff]
  obtain ⟨alone, front, -⟩ := resplits
  constructor
  · intro same
    induction found with
    | nil => simp
    | cons first rest hypothesis =>
        rw [List.forall_mem_cons] at alone ⊢
        cases rest with
        | nil =>
            rw [List.flatMap_singleton] at same
            exact ⟨standsAlone_of_line alone.1 same, by simp⟩
        | cons second others =>
            rw [List.dropLast_cons_cons, List.forall_mem_cons] at front
            rw [List.flatMap_cons, front.1.emits_line, List.singleton_append,
              List.cons_inj_right] at same
            exact ⟨front.1, hypothesis alone.2 front.2 same⟩
  · intro whole
    have lines := emits_flatMap fun statement member => (whole statement member).emits_line
    rw [lines.statements_eq, List.flatMap_singleton']

end Resplits

theorem Mode.settled_eq_normal_iff {mode : Mode} :
    mode.settled = .normal ↔ mode = .normal ∨ mode = .lineComment := by
  cases mode <;> simp [settled]

/-- Statements are a normal form of scripts. Each is trimmed and its own only statement; with
delimiters between them they are split again as they are; and they are with a delimiter behind
each of them exactly where the script leaves no block comment and no quoted run open. -/
theorem statements_normalForm (script : Text) :
    (∀ statement ∈ statements script,
        statement ≠ [] ∧ (∀ first ∈ statement.head?, first.isBlank = false) ∧
          (∀ last ∈ statement.getLast?, last.isBlank = false) ∧
            statements statement = [statement]) ∧
      statements ((text ";\n").intercalate (statements script)) = statements script ∧
      (statements (Command.shownStatements script) = statements script ↔
        (Splitter.fresh.feed script).state.mode = .normal ∨
          (Splitter.fresh.feed script).state.mode = .lineComment) := by
  have resplits := resplits_statements script
  refine ⟨fun statement member => ?_, resplits.statements_intercalate, ?_⟩
  · have alone := resplits.alone statement member
    rw [statements_eq] at member
    obtain ⟨nonempty, piece, -, rfl⟩ := mem_statementsOf.mp member
    exact ⟨nonempty, fun _ => Text.head?_strip, fun _ => Text.getLast?_strip, alone⟩
  · rw [(feed_fresh script).1, ← Mode.settled_eq_normal_iff]
    exact resplits.statements_lines_iff

/-- With a quoted run left open the delimiter goes into the statement. -/
example : statements (Command.shownStatements (text "SELECT 'a")) = [text "SELECT 'a;"] := by
  decide

end SqlDump.Script
