import SqlDump.Literal.Encode
import SqlDump.Proofs.Literal.Temporal
import SqlDump.Proofs.Script.Cutting

/-!
# Literals in front of the scanner

The scanner keeps all of a literal: what is quoted has its quotes and backslashes
escaped, and what is not quoted has no symbol that the scanner looks at, except
for the dash of a sign, which no second dash follows. A row adds parentheses and
commas, which the scanner keeps too.

Main statements: `whole_encode` for literals, `whole_encodeRow` for rows, and
`statements_encodeRows` for rows between two parts of a script.
-/

namespace SqlDump.Literal

open Script

/-! ## Quoted literals -/

/-- The written form of a content stays inside its quotes. -/
theorem enclosed_escape (content : Text) : Enclosed .single (escape content) := by
  rw [escape_eq_flatMap]
  apply enclosed_flatMap
  intro symbol _
  rcases escapeSymbol_cases symbol with ⟨mark, _, written⟩ | ⟨unlisted, written⟩
  · rw [written]
    exact scan_escaped .single mark
  · obtain ⟨notBackslash, notQuote⟩ := ne_of_not_mem_escaped unlisted
    rw [written]
    exact scan_content notBackslash notQuote

theorem whole_quote (content : Text) : Whole (quote content) :=
  (enclosed_escape content).whole

/-! ## Bare literals -/

theorem all_isPlain_digits (found : List Digit) : (Digit.text found).all isPlain = true := by
  have each : ∀ digit : Digit, isPlain digit.symbol = true := by decide
  induction found with
  | nil => rfl
  | cons digit rest hypothesis => simp [each, hypothesis]

/-- A sign in front of plain symbols begins no comment. -/
theorem whole_withSign (negative : Bool) {body : Text} (nonempty : body ≠ [])
    (plain : body.all isPlain = true) : Whole (Scientific.withSign negative body) := by
  cases negative with
  | false => exact whole_plain plain
  | true =>
      cases body with
      | nil => exact absurd rfl nonempty
      | cons symbol rest => exact whole_dash plain

theorem whole_plainNumeral (number : Int) : Whole (Numeral.plain number) := by
  rw [Numeral.plain_eq_withSign]
  exact whole_withSign _ (by simp) (all_isPlain_digits _)

theorem whole_positional (number : Binary64) : Whole number.positional := by
  simp only [Binary64.positional, Binary64.render]
  split
  next decimal _ =>
    have point : isPlain (.char '.') = true := by decide
    exact whole_withSign _ (by simp) (by simp [all_isPlain_digits, point])
  next negative _ => exact whole_withSign negative (by decide) (by decide)
  next => exact whole_plain (by decide)

/-- The scanner keeps all of a literal. -/
theorem whole_encode {value : Value} {literal : Text} (made : encode value = .ok literal) :
    Whole literal := by
  cases value with
  | null =>
      cases made
      exact whole_plain (by decide)
  | integer wide =>
      cases made
      exact whole_plainNumeral wide.number
  | float number =>
      cases made
      exact whole_positional number
  | double number =>
      cases made
      exact whole_positional number
  | bytes octets =>
      cases made
      exact whole_quote _
  | dateTime moment =>
      rw [ofMoment_eq_ok made]
      exact whole_quote _
  | time span =>
      rw [ofSpan_eq_ok made]
      exact whole_quote _

/-! ## Rows -/

/-- Whole fragments with plain separators between them are whole, if the separator
starts apart. -/
theorem whole_intercalate {separator : Text} (plain : separator.all isPlain = true)
    (apart : ∀ rest, StartsApart (separator ++ rest)) {fragments : List Text}
    (each : ∀ fragment ∈ fragments, Whole fragment) :
    Whole (separator.intercalate fragments) := by
  induction fragments with
  | nil => simp
  | cons fragment rest hypothesis =>
      have others := hypothesis fun other member => each other (by simp [member])
      cases rest with
      | nil => simpa using each fragment (by simp)
      | cons next more =>
          rw [List.intercalate_cons_cons, List.append_assoc]
          exact (each fragment (by simp)).append (apart _) (others.plain_append plain)

theorem whole_joinRow {literals : List Text} (each : ∀ literal ∈ literals, Whole literal) :
    Whole (joinRow literals) := by
  have separated : Whole (valueSeparator.intercalate literals) :=
    whole_intercalate (by decide) (fun _ => startsApart_cons.mpr (by decide)) each
  have closing : Whole [.char ')'] := whole_plain (by decide)
  have opened : Whole ([.char '('] ++ (valueSeparator.intercalate literals ++ [.char ')'])) :=
    (separated.append (startsApart_cons.mpr (by decide)) closing).plain_append (by decide)
  exact opened

theorem encodeRow_eq_ok {values : List Value} {row : Text} (made : encodeRow values = .ok row) :
    ∃ literals, values.mapM encode = .ok literals ∧ row = joinRow literals := by
  simp only [encodeRow] at made
  obtain ⟨literals, collected, made⟩ := bind_eq_ok_iff.mp made
  exact ⟨literals, collected, (Except.ok.inj made).symm⟩

/-- The scanner keeps all of a row. -/
theorem whole_encodeRow {values : List Value} {row : Text} (made : encodeRow values = .ok row) :
    Whole row := by
  obtain ⟨literals, collected, rfl⟩ := encodeRow_eq_ok made
  apply whole_joinRow
  intro literal member
  obtain ⟨value, _, written⟩ := exists_of_mem_of_mapM_eq_ok collected member
  exact whole_encode written

theorem joinRows_of_ne_nil {rows : List Text} (nonempty : rows ≠ []) :
    joinRows rows = rowSeparator.intercalate rows ++ rowsTerminator := by
  cases rows with
  | nil => exact absurd rfl nonempty
  | cons row more => rfl

section Rows

variable {rows : List (List Value)} {encoded : List Text}

theorem whole_rows (collected : rows.mapM encodeRow = .ok encoded) :
    Whole (rowSeparator.intercalate encoded) := by
  refine whole_intercalate (by decide) (fun _ => startsApart_cons.mpr (by decide)) ?_
  intro row member
  obtain ⟨values, _, rowMade⟩ := exists_of_mem_of_mapM_eq_ok collected member
  exact whole_encodeRow rowMade

/-- Rows start with the parenthesis of the first one. -/
theorem head?_rows (collected : rows.mapM encodeRow = .ok encoded) (nonempty : encoded ≠ []) :
    (rowSeparator.intercalate encoded).head? = some (.char '(') := by
  cases encoded with
  | nil => exact absurd rfl nonempty
  | cons row more =>
      obtain ⟨values, _, rowMade⟩ := exists_of_mem_of_mapM_eq_ok collected (List.mem_cons_self ..)
      obtain ⟨literals, _, rfl⟩ := encodeRow_eq_ok rowMade
      cases more with
      | nil => simp [joinRow]
      | cons next others =>
          rw [List.intercalate_cons_cons]
          rfl

/-- Rows end with the parenthesis of the last one. -/
theorem getLast?_rows (collected : rows.mapM encodeRow = .ok encoded) (nonempty : encoded ≠ []) :
    (rowSeparator.intercalate encoded).getLast? = some (.char ')') := by
  have each : ∀ row ∈ encoded, row.getLast? = some (.char ')') := by
    intro row member
    obtain ⟨values, _, rowMade⟩ := exists_of_mem_of_mapM_eq_ok collected member
    obtain ⟨literals, _, rfl⟩ := encodeRow_eq_ok rowMade
    exact List.getLast?_concat
  clear collected
  induction encoded with
  | nil => exact absurd rfl nonempty
  | cons row more hypothesis =>
      cases more with
      | nil => simpa using each row (by simp)
      | cons next others =>
          have last := hypothesis (by simp) fun other member => each other (by simp [member])
          rw [List.intercalate_cons_cons, List.getLast?_append, last]
          rfl

end Rows

/-- Encoded rows between two parts of a script are one statement, which starts with
what the first part has left pending. -/
theorem statements_encodeRows {before written : Text} {rows : List (List Value)}
    (normal : (Splitter.fresh.feed before).state.mode = .normal) (nonempty : rows ≠ [])
    (made : encodeRows rows = .ok written) (after : Text) :
    ∃ body, written = body ++ rowsTerminator ∧
      statements (before ++ written ++ after) =
        (Splitter.fresh.feed before).emitted ++
          [Text.strip ((Splitter.fresh.feed before).buffer ++ body)] ++ statements after := by
  obtain ⟨state, buffer, emitted⟩ := feed_fresh before
  rw [state] at normal
  rw [buffer, emitted]
  simp only [encodeRows] at made
  obtain ⟨encoded, collected, made⟩ := bind_eq_ok_iff.mp made
  have encodedNonempty : encoded ≠ [] := by
    rintro rfl
    exact nonempty (List.length_eq_zero_iff.mp (length_of_mapM_eq_ok collected).symm)
  have terminated : written = rowSeparator.intercalate encoded ++ rowsTerminator := by
    rw [← joinRows_of_ne_nil encodedNonempty]
    exact (Except.ok.inj made).symm
  have whole := whole_rows collected
  have opened := head?_rows collected encodedNonempty
  refine ⟨rowSeparator.intercalate encoded, terminated, ?_⟩
  rw [terminated]
  generalize rowSeparator.intercalate encoded = body at whole opened
  have apart : StartsApart body := by
    rw [StartsApart, opened]
    simp only [Option.mem_def, Option.some.injEq, forall_eq']
    decide
  have visible : Text.strip (pending before ++ body) ≠ [] :=
    Text.strip_ne_nil (List.mem_append_right _ (List.mem_of_mem_head? opened)) (by decide)
  have cut : before ++ (body ++ rowsTerminator) ++ after =
      before ++ body ++ .char ';' :: (List.replicate 2 (.char '\n') ++ after) := by
    simp [rowsTerminator, text, List.replicate]
  calc
    statements (before ++ (body ++ rowsTerminator) ++ after)
      = statements (before ++ body) ++ statements (List.replicate 2 (.char '\n') ++ after) := by
        rw [cut, statements_append_delimiter _ (final_append_whole normal apart whole)]
    _ = finished before ++ statementsOf [pending before ++ body] ++ statements after := by
        rw [statements_append_whole normal apart whole, emits_newlines 2 after, List.nil_append]
    _ = _ := by rw [statementsOf_singleton visible]

/-- A comment that holds a quote in front of the rows, and a value of quotes, dashes,
semicolons and a backslash. -/
theorem statements_encodeRows_hostile :
    (Splitter.fresh.feed (text "-- it's\nINSERT INTO t VALUES ")).state.mode = .normal ∧
    [[Value.bytes [0x27, 0x3B, 0x2D, 0x2D, 0x5C], .null]] ≠ [] ∧
    encodeRows [[.bytes [0x27, 0x3B, 0x2D, 0x2D, 0x5C], .null]] =
      .ok (text "('\\';--\\\\', NULL);\n\n") ∧
    ∃ body, text "('\\';--\\\\', NULL);\n\n" = body ++ rowsTerminator ∧
      statements (text "-- it's\nINSERT INTO t VALUES " ++
          text "('\\';--\\\\', NULL);\n\n" ++ text "COMMIT;") =
        (Splitter.fresh.feed (text "-- it's\nINSERT INTO t VALUES ")).emitted ++
          [Text.strip ((Splitter.fresh.feed (text "-- it's\nINSERT INTO t VALUES ")).buffer ++
            body)] ++ statements (text "COMMIT;") := by
  have normal :
      (Splitter.fresh.feed (text "-- it's\nINSERT INTO t VALUES ")).state.mode = .normal := by
    decide
  have nonempty : [[Value.bytes [0x27, 0x3B, 0x2D, 0x2D, 0x5C], .null]] ≠ [] := by simp
  have made : encodeRows [[.bytes [0x27, 0x3B, 0x2D, 0x2D, 0x5C], .null]] =
      .ok (text "('\\';--\\\\', NULL);\n\n") := by
    decide
  exact ⟨normal, nonempty, made, statements_encodeRows normal nonempty made (text "COMMIT;")⟩

end SqlDump.Literal
