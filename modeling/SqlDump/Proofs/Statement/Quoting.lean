import SqlDump.Proofs.Script.Seen
import SqlDump.Proofs.Statement.Name

/-!
# Names that survive the splitter

Between backticks the writer of names leaves a backslash as it is, and the scanner lets
it escape what stands behind it. A name that is not intact has a backslash that hides one
of its backticks from the scanner, which then takes the run to be open where it is closed,
and the other way round. Backticks come in pairs from there on, so it is still elsewhere
at the end of the name.

Main statements: `final_identifier_iff`, and `statements_quoted_iff` for the statements
that contain a name.
-/

namespace SqlDump.Statement

open Script

/-! ## Names that are not intact -/

/-- Whether the scanner is not inside backticks, and does not wait to keep a symbol unless
that is the slash at the end of a block comment. -/
structure Outside (state : State) (rest : Text) : Prop where
  mode : state.mode ≠ .quoted .backtick
  waits : state.verbatim = true → state.mode = .normal → rest.head? = some (.char '/')

theorem outside_start (rest : Text) : Outside .start rest :=
  ⟨by simp [State.start], by simp [State.start]⟩

/-- A symbol that is no backtick opens no backticks. -/
theorem Outside.step {state : State} {symbol : Symbol} {rest : Text}
    (outside : Outside state (symbol :: rest)) (different : symbol ≠ backtick) :
    Outside (state.advance symbol rest.head?).2 rest := by
  have notInside := outside.mode
  obtain ⟨mark, after, advance, step⟩ := exists_step state symbol rest.head?
  rw [advance]
  generalize ahead : rest.head? = next at step
  cases step with
  | endBlock => exact ⟨nofun, fun _ _ => ahead⟩
  | openQuote quote =>
      refine ⟨fun inside => different ?_, nofun⟩
      cases inside
      rfl
  | verbatim => exact ⟨notInside, nofun⟩
  | escape => exact ⟨notInside, nofun⟩
  | double => exact ⟨notInside, nofun⟩
  | inQuote => exact ⟨notInside, nofun⟩
  | _ => exact ⟨nofun, nofun⟩

/-- Inside a comment or other quotes a backtick changes nothing. -/
theorem advance_backtick {mode : Mode} (notNormal : mode ≠ .normal)
    (notInside : mode ≠ .quoted .backtick) (verbatim : Bool) (next : Option Symbol) :
    (State.advance { mode, verbatim } backtick next).2 = { mode } := by
  cases verbatim with
  | true => rfl
  | false =>
      cases mode with
      | normal => exact absurd rfl notNormal
      | lineComment => rfl
      | blockComment => rfl
      | quoted quote =>
          cases quote with
          | single => rfl
          | double => rfl
          | backtick => exact absurd rfl notInside

/-- What is written of a name behind its opening backtick. -/
def closing (name : Text) : Text :=
  doubled name ++ [backtick]

@[simp] theorem closing_nil : closing [] = [backtick] := rfl

@[simp] theorem closing_backtick (rest : Text) :
    closing (backtick :: rest) = backtick :: backtick :: closing rest := by
  simp [closing]

theorem closing_of_ne {symbol : Symbol} (different : symbol ≠ backtick) (rest : Text) :
    closing (symbol :: rest) = symbol :: closing rest := by
  simp [closing, doubled_of_ne different]

/-- Behind a text that starts with a backtick the scanner waits for nothing. -/
theorem Outside.eq_start {rest : Text} {verbatim : Bool}
    (outside : Outside { mode := .normal, verbatim } (backtick :: rest)) :
    ({ mode := .normal, verbatim } : State) = .start := by
  cases verbatim with
  | false => rfl
  | true =>
      have slash := outside.waits rfl rfl
      simp [backtick] at slash

theorem final_open (rest : Text) :
    (scan .start (backtick :: rest)).final = (scan (.inside .backtick) rest).final := by
  have scanned : scan .start (backtick :: rest) = _ := scan_open .backtick rest
  rw [scanned, Scan.behind_final]

theorem final_doubled (rest : Text) :
    (scan (.inside .backtick) (backtick :: backtick :: rest)).final =
      (scan (.inside .backtick) rest).final := by
  have scanned : scan (.inside .backtick) (backtick :: backtick :: rest) = _ :=
    scan_doubled .backtick rest
  rw [scanned, Scan.behind_final]

/-- A backtick in front of another symbol closes the run. -/
theorem final_close {symbol : Symbol} (different : symbol ≠ backtick) (rest : Text) :
    (scan (.inside .backtick) (backtick :: symbol :: rest)).final =
      (scan .start (symbol :: rest)).final := by
  have notBackslash : backtick ≠ .char '\\' := by decide
  have isQuote : Quote.backtick.symbol = backtick := rfl
  have closed : ((State.inside .backtick).advance backtick (some symbol)).2 = .start := by
    simp [State.advance, State.inside, State.start, advanceQuoted, notBackslash, isQuote,
      different]
  rw [scan_step, Scan.behind_final, List.head?_cons, closed]

/-- The scanner does not come back at the end of a name that it reads from outside of its
backticks, nor of one that it reads from the middle of a doubled backtick. -/
theorem final_closing_of_outside (name : Text) :
    (∀ state, Outside state (closing name) →
      (scan state (closing name)).final.mode ≠ .normal) ∧
    (scan (.inside .backtick) (backtick :: closing name)).final.mode ≠ .normal := by
  induction name with
  | nil =>
      refine ⟨fun ⟨mode, verbatim⟩ outside => ?_, by decide⟩
      by_cases normal : mode = .normal
      · subst normal
        rw [closing_nil] at outside ⊢
        rw [outside.eq_start]
        decide
      · rw [closing_nil, scan_step, Scan.behind_final, advance_backtick normal outside.mode]
        exact normal
  | cons symbol rest hypothesis =>
      obtain ⟨fromOutside, fromMiddle⟩ := hypothesis
      by_cases same : symbol = backtick
      · subst same
        rw [closing_backtick]
        constructor
        · rintro ⟨mode, verbatim⟩ outside
          by_cases normal : mode = .normal
          · subst normal
            rw [outside.eq_start, final_open]
            exact fromMiddle
          · rw [scan_step, Scan.behind_final, advance_backtick normal outside.mode, scan_step,
              Scan.behind_final, advance_backtick normal outside.mode]
            exact fromOutside _ ⟨outside.mode, by simp⟩
        · rw [final_doubled]
          exact fromMiddle
      · rw [closing_of_ne same]
        have outsideStep : ∀ state, Outside state (symbol :: closing rest) →
            (scan state (symbol :: closing rest)).final.mode ≠ .normal := by
          intro state outside
          rw [scan_step, Scan.behind_final]
          exact fromOutside _ (outside.step same)
        refine ⟨outsideStep, ?_⟩
        rw [final_close same]
        exact outsideStep .start (outside_start _)

/-- Between its backticks a name that is not intact keeps the scanner from coming back. -/
theorem final_closing_of_isIntact_eq_false {name : Text} (broken : isIntact name = false) :
    (scan (.inside .backtick) (closing name)).final.mode ≠ .normal := by
  induction name using isIntact.induct with
  | case1 => cases broken
  | case2 last =>
      have backslash : last = .char '\\' := by simpa [isIntact] using broken
      rw [backslash]
      decide
  | case3 next name hypothesis =>
      rw [closing_of_ne (by decide)]
      by_cases same : next = backtick
      · -- The first of two backticks is escaped, and the second one closes the run.
        rw [same, closing_backtick, scan_escaped, Scan.behind_final]
        exact (final_closing_of_outside name).2
      · have rest : isIntact name = false := by simpa [isIntact, same] using broken
        rw [closing_of_ne same, scan_escaped, Scan.behind_final]
        exact hypothesis rest
  | case4 symbol next name notBackslash hypothesis =>
      rw [isIntact, if_neg notBackslash] at broken
      have step := scan_doubled_cons notBackslash (next :: name) [backtick]
      have final : (scan (.inside .backtick) (closing (symbol :: next :: name))).final =
          (scan (.inside .backtick) (closing (next :: name))).final := by
        rw [closing, step, Scan.behind_final, closing]
      rw [final]
      exact hypothesis broken

/-- The scanner comes back from a quoted name exactly where the name is intact. -/
theorem final_identifier_iff (name : Text) :
    (scan .start (identifier name)).final.mode = .normal ↔ isIntact name = true := by
  have opened : (scan .start (identifier name)).final =
      (scan (.inside .backtick) (closing name)).final := by
    rw [← final_open]
    rfl
  rw [opened]
  constructor
  · intro normal
    by_contra broken
    exact final_closing_of_isIntact_eq_false (by simpa using broken) normal
  · intro intact
    rw [closing, enclosed_doubled intact]
    rfl

/-! ## Statements with names -/

/-- A table has an intact name where its removal is its own statement. -/
theorem isIntact_of_statements_dropTable {table : Text}
    (alone : statements (dropTable table) = [drop table]) : isIntact table = true := by
  have normal : (scan .start (drop table)).final.mode = .normal :=
    normal_of_statements_terminator (getLast?_drop table) (by decide) (by decide) alone
  rw [drop, scan_plain (by decide), Scan.behind_final] at normal
  exact (final_identifier_iff table).mp normal

/-- The insertion of rows is one statement without its terminator. -/
theorem emits_insert {mode : InsertMode} {table written : Text} {rows : List (List Value)}
    (intact : isIntact table = true) (nonempty : rows ≠ [])
    (made : insert mode table rows = .ok written) :
    ∃ body, written = body ++ Literal.rowsTerminator ∧ Emits written [body] := by
  obtain ⟨encoded, collected, someEncoded, rfl⟩ := exists_of_insert_eq_ok nonempty made
  exact ⟨_, rfl, emits_insertion mode intact collected someEncoded⟩

/-- The removal of a table and the insertion of rows into it are read as one statement
each, whatever follows, exactly where the name of the table is intact. -/
theorem statements_quoted_iff (table : Text) :
    ((∀ after, statements (dropTable table ++ after) = drop table :: statements after) ∧
      ∀ mode rows written, rows ≠ [] → insert mode table rows = .ok written →
        ∃ body, written = body ++ Literal.rowsTerminator ∧
          ∀ after, statements (written ++ after) = body :: statements after) ↔
      isIntact table = true := by
  constructor
  · rintro ⟨removed, -⟩
    apply isIntact_of_statements_dropTable
    simpa using removed []
  · intro intact
    exact ⟨emits_dropTable intact, fun _ _ _ nonempty made => emits_insert intact nonempty made⟩

/-- A backslash in front of a backtick: a part of the name becomes a statement of its own,
and what follows disappears in another quoted run. -/
theorem statements_dropTable_backslash :
    statements (dropTable (text "a\\`;b") ++ text "SELECT 1;") ≠
      drop (text "a\\`;b") :: statements (text "SELECT 1;") := by
  decide +kernel

end SqlDump.Statement
