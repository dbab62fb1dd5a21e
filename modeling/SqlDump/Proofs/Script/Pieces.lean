import SqlDump.Proofs.Script.Fragment
import SqlDump.Proofs.Text.Trimming
import SqlDump.Script.Statements

/-!
# The pieces of a script

A splitter collects its statements while it reads. Seen from the end of the script,
they are the pieces between the delimiters among the scanner's marks, trimmed and
without the empty ones.

Main statements: `statements_eq` for the statements of a script, `visible_statements`
for what is to be seen of them, and `feed_fresh` for a splitter that has not come to the
end yet.
-/

namespace SqlDump.Script

/-- The symbols kept between the delimiters, piece by piece. -/
def pieces (marks : List Mark) : List Text :=
  (marks.splitOnP Mark.isDelimiter).map (·.filterMap Mark.symbol?)

/-! ## Pieces of marks -/

theorem pieces_append_delimiter (left right : List Mark) :
    pieces (left ++ .delimiter :: right) = pieces left ++ pieces right := by
  have isDelimiter : Mark.isDelimiter .delimiter = true := rfl
  rw [pieces, List.splitOnP_append_cons left right isDelimiter, List.map_append]
  rfl

theorem pieces_delimiter_cons (marks : List Mark) :
    pieces (.delimiter :: marks) = [] :: pieces marks :=
  pieces_append_delimiter [] marks

theorem pieces_ne_nil (marks : List Mark) : pieces marks ≠ [] := by
  simp [pieces, List.splitOnP_ne_nil]

/-- What is kept in front of marks goes into their first piece. -/
theorem pieces_kept_append (content : Text) (marks : List Mark) :
    pieces (kept content ++ marks) = (pieces marks).modifyHead (content ++ ·) := by
  induction content with
  | nil =>
      rw [kept_nil, List.nil_append]
      cases pieces marks <;> rfl
  | cons symbol rest hypothesis =>
      have step : pieces (.kept symbol :: (kept rest ++ marks)) =
          (pieces (kept rest ++ marks)).modifyHead (symbol :: ·) := by
        simp only [pieces, List.splitOnP_cons_eq_if_modifyHead, Mark.isDelimiter]
        cases List.splitOnP Mark.isDelimiter (kept rest ++ marks) <;> rfl
      rw [kept_cons, List.cons_append, step, hypothesis, List.modifyHead_modifyHead]
      rfl

theorem pieces_kept_cons (symbol : Symbol) (marks : List Mark) :
    pieces (.kept symbol :: marks) = (pieces marks).modifyHead (symbol :: ·) :=
  pieces_kept_append [symbol] marks

theorem pieces_kept (content : Text) : pieces (kept content) = [content] := by
  have alone := pieces_kept_append content []
  rw [List.append_nil] at alone
  rw [alone]
  simp [pieces]

/-- What is kept behind marks goes into their last piece. -/
theorem pieces_append_kept (marks : List Mark) (content : Text) :
    pieces (marks ++ kept content) =
      (pieces marks).dropLast ++ [(pieces marks).getLast?.getD [] ++ content] := by
  induction marks with
  | nil =>
      rw [List.nil_append, pieces_kept]
      simp [pieces]
  | cons mark rest hypothesis =>
      have nonempty := pieces_ne_nil rest
      cases mark with
      | delimiter =>
          rw [List.cons_append, pieces_delimiter_cons, pieces_delimiter_cons, hypothesis]
          cases others : pieces rest with
          | nil => exact absurd others nonempty
          | cons piece more => simp
      | kept symbol =>
          rw [List.cons_append, pieces_kept_cons, pieces_kept_cons, hypothesis]
          match others : pieces rest with
          | [] => exact absurd others nonempty
          | [piece] => simp
          | piece :: next :: more => simp

/-- The symbols that marks keep. -/
def keptOf (marks : List Mark) : Text :=
  marks.filterMap Mark.symbol?

@[simp] theorem keptOf_append (left right : List Mark) :
    keptOf (left ++ right) = keptOf left ++ keptOf right :=
  List.filterMap_append

@[simp] theorem keptOf_kept (content : Text) : keptOf (kept content) = content := by
  induction content with
  | nil => rfl
  | cons symbol rest hypothesis => exact congrArg (symbol :: ·) hypothesis

theorem mem_keptOf {symbol : Symbol} {marks : List Mark} :
    symbol ∈ keptOf marks ↔ .kept symbol ∈ marks := by
  rw [keptOf, List.mem_filterMap]
  constructor
  · rintro ⟨mark, member, same⟩
    cases mark with
    | delimiter => cases same
    | kept found =>
        cases same
        exact member
  · intro member
    exact ⟨_, member, rfl⟩

/-- The pieces hold what is kept, in order. -/
theorem flatten_pieces (marks : List Mark) : (pieces marks).flatten = keptOf marks := by
  induction marks with
  | nil => rfl
  | cons mark rest hypothesis =>
      cases mark with
      | delimiter =>
          rw [pieces_delimiter_cons, List.flatten_cons, List.nil_append, hypothesis]
          rfl
      | kept symbol =>
          rw [pieces_kept_cons]
          cases others : pieces rest with
          | nil => exact absurd others (pieces_ne_nil rest)
          | cons first more =>
              rw [others] at hypothesis
              simpa [keptOf, Mark.symbol?] using hypothesis

/-- The symbols kept in front of the first delimiter. -/
def firstPiece : List Mark → Text
  | .kept symbol :: rest => symbol :: firstPiece rest
  | _ => []

theorem pieces_eq_cons (marks : List Mark) :
    ∃ others, pieces marks = firstPiece marks :: others := by
  induction marks with
  | nil => exact ⟨[], rfl⟩
  | cons mark rest hypothesis =>
      cases mark with
      | delimiter => exact ⟨pieces rest, pieces_delimiter_cons rest⟩
      | kept symbol =>
          obtain ⟨others, same⟩ := hypothesis
          exact ⟨others, by rw [pieces_kept_cons, same]; rfl⟩

/-! ## Statements of pieces -/

@[simp] theorem statementsOf_append (left right : List Text) :
    statementsOf (left ++ right) = statementsOf left ++ statementsOf right := by
  simp [statementsOf]

/-- A piece with something to see is a statement. -/
theorem statementsOf_singleton {piece : Text} (visible : Text.strip piece ≠ []) :
    statementsOf [piece] = [Text.strip piece] := by
  simp [statementsOf, visible]

/-- Trimmed or not, pieces have the same to see. -/
theorem visible_statementsOf (pieces : List Text) :
    Text.visible (statementsOf pieces).flatten = Text.visible pieces.flatten := by
  induction pieces with
  | nil => rfl
  | cons piece rest hypothesis =>
      have split : statementsOf (piece :: rest) = statementsOf [piece] ++ statementsOf rest :=
        statementsOf_append [piece] rest
      have alone : Text.visible (statementsOf [piece]).flatten = Text.visible piece := by
        by_cases empty : Text.strip piece = []
        · have none := Text.visible_strip piece
          rw [empty] at none
          simpa [statementsOf, empty] using none
        · simp [statementsOf_singleton empty]
      rw [split, List.flatten_append, List.flatten_cons, Text.visible_append, Text.visible_append,
        alone, hypothesis]

/-- Blanks in front of the first piece do not matter. -/
theorem statementsOf_modifyHead {blanks : Text} (blank : ∀ symbol ∈ blanks, symbol.isBlank = true)
    (pieces : List Text) :
    statementsOf (pieces.modifyHead (blanks ++ ·)) = statementsOf pieces := by
  cases pieces with
  | nil => rfl
  | cons piece rest => simp [statementsOf, Text.strip_append_of_blank blank]

/-- Delimiters, and blanks that are kept, make no statement with what is behind them. -/
theorem statementsOf_blank_append {marks : List Mark}
    (blank : ∀ symbol, .kept symbol ∈ marks → symbol.isBlank = true) (others : List Mark) :
    statementsOf (pieces (marks ++ others)) = statementsOf (pieces others) := by
  induction marks with
  | nil => rfl
  | cons mark rest hypothesis =>
      have restBlank := hypothesis fun symbol member => blank symbol (by simp [member])
      cases mark with
      | delimiter =>
          rw [List.cons_append, pieces_delimiter_cons, ← List.singleton_append,
            statementsOf_append, restBlank]
          rfl
      | kept symbol =>
          have alone : ∀ other ∈ [symbol], other.isBlank = true := by
            simpa using blank symbol (by simp)
          have trimmed := statementsOf_modifyHead alone (pieces (rest ++ others))
          rw [List.cons_append, pieces_kept_cons]
          exact trimmed.trans restBlank

/-! ## Splitters -/

namespace Splitter

@[simp] theorem buffer_flush (splitter : Splitter) : splitter.flush.buffer = [] := rfl

@[simp] theorem emitted_flush (splitter : Splitter) :
    splitter.flush.emitted = splitter.emitted ++ statementsOf [splitter.buffer] := by
  simp only [flush, emitted]
  cases empty : (Text.strip splitter.buffer).isEmpty <;> simp [statementsOf, empty]

@[simp] theorem buffer_take_kept (splitter : Splitter) (symbol : Symbol) :
    (splitter.take (some (.kept symbol))).buffer = splitter.buffer ++ [symbol] := by
  simp [take, buffer]

@[simp] theorem emitted_take_kept (splitter : Splitter) (symbol : Symbol) :
    (splitter.take (some (.kept symbol))).emitted = splitter.emitted := rfl

/-- The pieces that a splitter comes to when it takes marks: the first one starts with
its buffer. -/
def piecesWith (splitter : Splitter) (marks : List Mark) : List Text :=
  pieces (kept splitter.buffer ++ marks)

/-- Taking a mark does not change what becomes of it and of the marks behind it. -/
theorem take_spec (splitter : Splitter) (mark : Option Mark) (marks : List Mark) :
    ((splitter.take mark).piecesWith marks).getLast? =
        (splitter.piecesWith (mark.toList ++ marks)).getLast? ∧
      (splitter.take mark).emitted ++
          statementsOf ((splitter.take mark).piecesWith marks).dropLast =
        splitter.emitted ++ statementsOf (splitter.piecesWith (mark.toList ++ marks)).dropLast := by
  match mark with
  | none => exact ⟨rfl, rfl⟩
  | some (.kept symbol) => simp [piecesWith]
  | some .delimiter =>
      -- The delimiter ends the buffer's piece, and there is a piece behind it.
      have cut : splitter.piecesWith (.delimiter :: marks) = splitter.buffer :: pieces marks := by
        rw [piecesWith, pieces_append_delimiter, pieces_kept, List.singleton_append]
      have flushed : (splitter.take (some .delimiter)).piecesWith marks = pieces marks := rfl
      have emitted : (splitter.take (some .delimiter)).emitted =
          splitter.emitted ++ statementsOf [splitter.buffer] := emitted_flush splitter
      rw [Option.toList_some, List.singleton_append, cut, flushed, emitted]
      cases others : pieces marks with
      | nil => exact absurd others (pieces_ne_nil marks)
      | cons piece rest =>
          refine ⟨by simp, ?_⟩
          rw [List.dropLast_cons_cons, List.append_assoc, ← statementsOf_append,
            List.singleton_append]

/-- What a splitter has read of a script: it stands where the scanner stands, has the
last piece in its buffer, and has made statements of the pieces before that. -/
theorem feed_spec (splitter : Splitter) (script : Text) :
    (splitter.feed script).state = (scan splitter.state script).final ∧
      some (splitter.feed script).buffer =
        (splitter.piecesWith (scan splitter.state script).marks).getLast? ∧
      (splitter.feed script).emitted = splitter.emitted ++
        statementsOf (splitter.piecesWith (scan splitter.state script).marks).dropLast := by
  induction script generalizing splitter with
  | nil => simp [feed, piecesWith, pieces_kept, statementsOf]
  | cons symbol rest hypothesis =>
      have step := take_spec splitter (splitter.state.advance symbol rest.head?).1
        (scan (splitter.state.advance symbol rest.head?).2 rest).marks
      obtain ⟨state, buffer, emitted⟩ := hypothesis (splitter.read symbol rest.head?)
      rw [feed, scan_step]
      exact ⟨state, buffer.trans step.1, emitted.trans step.2⟩

end Splitter

/-! ## Scripts -/

/-- The statements that a text has finished, when more may follow it. -/
def finished (script : Text) : List Text :=
  statementsOf (pieces (scan .start script).marks).dropLast

/-- The symbols kept since the last delimiter of a text. -/
def pending (script : Text) : Text :=
  (pieces (scan .start script).marks).getLast?.getD []

/-- A fresh splitter behind a text. -/
theorem feed_fresh (script : Text) :
    (Splitter.fresh.feed script).state = (scan .start script).final ∧
      (Splitter.fresh.feed script).buffer = pending script ∧
      (Splitter.fresh.feed script).emitted = finished script := by
  obtain ⟨state, buffer, emitted⟩ := Splitter.feed_spec .fresh script
  have last : some (Splitter.fresh.feed script).buffer =
      (pieces (scan .start script).marks).getLast? := buffer
  refine ⟨state, ?_, emitted⟩
  rw [pending, ← last, Option.getD_some]

/-- The statements of a script are the pieces between its delimiters. -/
theorem statements_eq (script : Text) :
    statements script = statementsOf (pieces (scan .start script).marks) := by
  have nonempty := pieces_ne_nil (scan .start script).marks
  have last : pending script = (pieces (scan .start script).marks).getLast nonempty := by
    rw [pending, List.getLast?_eq_some_getLast nonempty, Option.getD_some]
  obtain ⟨_, buffer, emitted⟩ := feed_fresh script
  calc
    statements script = (Splitter.fresh.feed script).flush.emitted := rfl
    _ = finished script ++ statementsOf [pending script] := by
        rw [Splitter.emitted_flush, emitted, buffer]
    _ = statementsOf (pieces (scan .start script).marks) := by
        rw [finished, ← statementsOf_append, last, List.dropLast_concat_getLast]

/-- The statements of a script have the same to see as what the scanner keeps. -/
theorem visible_statements (script : Text) :
    Text.visible (statements script).flatten =
      Text.visible (keptOf (scan .start script).marks) := by
  rw [statements_eq, visible_statementsOf, flatten_pieces]

/-- A script has no statement where it has nothing to see outside its comments. -/
theorem statements_eq_nil_iff {script : Text} :
    statements script = [] ↔
      ∀ symbol, .kept symbol ∈ (scan .start script).marks → symbol.isBlank = true := by
  constructor
  · intro none symbol member
    have shown := visible_statements script
    rw [none] at shown
    exact Text.visible_eq_nil_iff.mp shown.symm symbol (mem_keptOf.mpr member)
  · intro blank
    rw [statements_eq]
    simpa [pieces, statementsOf] using statementsOf_blank_append blank []

/-- A splitter reads each script as if it were the only one. -/
theorem splitEach_eq (splitter : Splitter) (scripts : List Text) :
    splitter.splitEach scripts = scripts.map statements := by
  induction scripts generalizing splitter with
  | nil => rfl
  | cons script rest hypothesis =>
      rw [Splitter.splitEach, List.map_cons, ← hypothesis]
      rfl

end SqlDump.Script
