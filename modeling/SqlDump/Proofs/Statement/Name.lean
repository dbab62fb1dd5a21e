import SqlDump.Proofs.Literal.Containment
import SqlDump.Statement.Insert

/-!
# Quoted names in front of the scanner

The writer of a quoted name doubles its backticks and leaves its backslashes, while to
the scanner a backslash between backticks keeps the symbol behind it. The scanner reads
back a name as it is meant as long as no backslash makes it miss a backtick: the name is
then intact.

Main statements: `whole_identifier` for names, `standsAlone_drop` and
`standsAlone_insertion` for the statements that contain them.
-/

namespace SqlDump.Statement

open Script

/-! ## Intact names -/

/-- Whether no backslash of a name that the scanner takes for an escape stands in front of
a backtick or at the end. -/
def isIntact : Text → Bool
  | [] => true
  | [last] => last ≠ .char '\\'
  | symbol :: next :: rest =>
      if symbol = .char '\\' then next ≠ backtick && isIntact rest
      else isIntact (next :: rest)

@[simp] theorem doubled_nil : doubled [] = [] := rfl

@[simp] theorem doubled_backtick (rest : Text) :
    doubled (backtick :: rest) = backtick :: backtick :: doubled rest := by
  simp [doubled]

theorem doubled_of_ne {symbol : Symbol} (different : symbol ≠ backtick) (rest : Text) :
    doubled (symbol :: rest) = symbol :: doubled rest := by
  simp [doubled, different]

/-- A symbol that is no backslash stays inside its backticks. -/
theorem scan_doubled_cons {symbol : Symbol} (notBackslash : symbol ≠ .char '\\')
    (name rest : Text) :
    scan (.inside .backtick) (doubled (symbol :: name) ++ rest) =
      (scan (.inside .backtick) (doubled name ++ rest)).behind (kept (doubled [symbol])) := by
  by_cases same : symbol = backtick
  · rw [same, doubled_backtick, doubled_backtick]
    exact scan_doubled .backtick _
  · have different : symbol ≠ Quote.backtick.symbol := same
    rw [doubled_of_ne same, doubled_of_ne same]
    exact scan_content notBackslash different _

theorem doubled_append (left right : Text) :
    doubled (left ++ right) = doubled left ++ doubled right :=
  List.flatMap_append

/-- The content of an intact name stays inside its backticks. -/
theorem enclosed_doubled {name : Text} (intact : isIntact name = true) :
    Enclosed .backtick (doubled name) := by
  induction name using isIntact.induct with
  | case1 => exact enclosed_nil _
  | case2 last =>
      intro rest
      have notBackslash : last ≠ .char '\\' := by simpa [isIntact] using intact
      exact scan_doubled_cons notBackslash [] rest
  | case3 next name hypothesis =>
      simp only [isIntact, if_true, Bool.and_eq_true, decide_eq_true_eq] at intact
      intro rest
      rw [doubled_of_ne (by decide), doubled_of_ne intact.1]
      simp only [List.cons_append]
      rw [scan_escaped, hypothesis intact.2]
      simp
  | case4 symbol next name notBackslash hypothesis =>
      simp only [isIntact, notBackslash, if_false] at intact
      intro rest
      rw [scan_doubled_cons notBackslash, hypothesis intact, Scan.behind_behind, ← kept_append,
        ← doubled_append, List.singleton_append]

theorem whole_identifier {name : Text} (intact : isIntact name = true) : Whole (identifier name) :=
  (enclosed_doubled intact).whole

theorem isIntact_of_not_mem {name : Text} (clean : .char '\\' ∉ name) : isIntact name = true := by
  induction name using isIntact.induct with
  | case1 => rfl
  | case2 last =>
      have notBackslash : last ≠ .char '\\' := fun same => clean (by simp [same])
      simp [isIntact, notBackslash]
  | case3 next name hypothesis => simp at clean
  | case4 symbol next name notBackslash hypothesis =>
      rw [isIntact, if_neg notBackslash]
      exact hypothesis (List.not_mem_of_not_mem_cons clean)

theorem newline_not_mem_doubled {name : Text} (oneLine : .char '\n' ∉ name) :
    .char '\n' ∉ doubled name := by
  intro member
  obtain ⟨symbol, fromName, written⟩ := List.mem_flatMap.mp member
  split at written
  next => simp [backtick] at written
  next =>
    rw [List.mem_singleton] at written
    exact oneLine (written ▸ fromName)

/-- A quoted name has no newline where the name has none. -/
theorem newline_not_mem_identifier {name : Text} (oneLine : .char '\n' ∉ name) :
    .char '\n' ∉ identifier name := by
  simp [identifier, backtick, newline_not_mem_doubled oneLine]

/-! ## Statements with names -/

/-- The statement that removes a table. -/
def drop (table : Text) : Text :=
  text "DROP TABLE IF EXISTS " ++ identifier table

/-- The statement that inserts rows given as texts. -/
def insertion (mode : InsertMode) (table : Text) (rows : List Text) : Text :=
  insertHead mode table ++ Literal.rowSeparator.intercalate rows

theorem getLast?_drop (table : Text) : (drop table).getLast? = some backtick := by
  rw [drop, identifier, ← List.append_assoc, List.getLast?_concat]

theorem standsAlone_drop {table : Text} (intact : isIntact table = true) :
    StandsAlone (drop table) := by
  have whole : Whole (drop table) := (whole_identifier intact).plain_append (by decide)
  have first : (drop table).head? = some (.char 'D') := rfl
  refine whole.standsAlone (by simp [drop, identifier]) (Text.strip_eq_self ?_ ?_)
  · rw [first]
    decide
  · rw [getLast?_drop]
    decide

/-- An insertion of encoded rows stands alone. -/
theorem standsAlone_insertion (mode : InsertMode) {table : Text} {rows : List (List Value)}
    {encoded : List Text} (intact : isIntact table = true)
    (collected : rows.mapM Literal.encodeRow = .ok encoded) (nonempty : encoded ≠ []) :
    StandsAlone (insertion mode table encoded) := by
  have values : Whole (text " VALUES \n" ++ Literal.rowSeparator.intercalate encoded) :=
    (Literal.whole_rows collected).plain_append (by decide)
  have apart : StartsApart (text " VALUES \n" ++ Literal.rowSeparator.intercalate encoded) :=
    startsApart_cons.mpr (by decide)
  have plain : (text mode.verb ++ text " ").all isPlain = true := by
    cases mode <;> decide
  have whole : Whole (insertion mode table encoded) := by
    have whole := ((whole_identifier intact).append apart values).plain_append plain
    simpa only [insertion, insertHead, List.append_assoc] using whole
  have first : ∃ letter ∈ [Symbol.char 'I', .char 'R'],
      (insertion mode table encoded).head? = some letter := by
    cases mode
    · exact ⟨.char 'I', by simp, rfl⟩
    · exact ⟨.char 'I', by simp, rfl⟩
    · exact ⟨.char 'R', by simp, rfl⟩
  have last : (insertion mode table encoded).getLast? = some (.char ')') := by
    rw [insertion, List.getLast?_append, Literal.getLast?_rows collected nonempty]
    rfl
  have visible : ∀ letter ∈ [Symbol.char 'I', .char 'R'], letter.isBlank = false := by decide
  obtain ⟨letter, listed, first⟩ := first
  refine whole.standsAlone ?_ (Text.strip_eq_self ?_ ?_)
  · rintro none
    rw [none] at first
    cases first
  · rw [first]
    simpa using visible letter listed
  · rw [last]
    decide

theorem emits_dropTable {table : Text} (intact : isIntact table = true) :
    Emits (dropTable table) [drop table] := by
  have emits := (standsAlone_drop intact).emits.append (emits_newlines 1)
  simpa [dropTable, drop, text] using emits

theorem emits_insertion (mode : InsertMode) {table : Text} {rows : List (List Value)}
    {encoded : List Text} (intact : isIntact table = true)
    (collected : rows.mapM Literal.encodeRow = .ok encoded) (nonempty : encoded ≠ []) :
    Emits (insertion mode table encoded ++ Literal.rowsTerminator)
      [insertion mode table encoded] := by
  have standsAlone := standsAlone_insertion mode intact collected nonempty
  have emits := standsAlone.emits.append (emits_newlines 2)
  simpa [Literal.rowsTerminator, text, List.replicate] using emits

/-- What inserts encoded rows: one statement, and no rows none. -/
def insertions (mode : InsertMode) (table : Text) (encoded : List Text) : Text :=
  if encoded = [] then [] else insertion mode table encoded ++ Literal.rowsTerminator

theorem emits_insertions (mode : InsertMode) {table : Text} {rows : List (List Value)}
    {encoded : List Text} (intact : isIntact table = true)
    (collected : rows.mapM Literal.encodeRow = .ok encoded) :
    Emits (insertions mode table encoded)
      (if encoded = [] then [] else [insertion mode table encoded]) := by
  rw [insertions]
  split
  · exact emits_nil
  next nonempty => exact emits_insertion mode intact collected nonempty

/-- Rows are inserted where each of them can be encoded. -/
theorem insert_eq (mode : InsertMode) (table : Text) (rows : List (List Value)) :
    insert mode table rows = (rows.mapM Literal.encodeRow).map (insertions mode table) := by
  cases rows with
  | nil => rfl
  | cons row rest =>
      cases collected : (row :: rest).mapM Literal.encodeRow with
      | error error => simp [insert, Literal.encodeRows, collected, bind, Except.bind, Except.map]
      | ok encoded =>
          have nonempty : encoded ≠ [] := by
            rintro rfl
            cases length_of_mapM_eq_ok collected
          simp [insert, insertions, Literal.encodeRows, collected, nonempty, bind, Except.bind,
            Except.map, pure, Except.pure, Literal.joinRows_of_ne_nil, insertion]

/-- What inserts rows ends the statement of the encoded rows. -/
theorem exists_of_insert_eq_ok {mode : InsertMode} {table written : Text}
    {rows : List (List Value)} (nonempty : rows ≠ [])
    (made : insert mode table rows = .ok written) :
    ∃ encoded, rows.mapM Literal.encodeRow = .ok encoded ∧ encoded ≠ [] ∧
      written = insertion mode table encoded ++ Literal.rowsTerminator := by
  rw [insert_eq] at made
  cases collected : rows.mapM Literal.encodeRow with
  | error error =>
      rw [collected] at made
      cases made
  | ok encoded =>
      have someEncoded : encoded ≠ [] := by
        rintro rfl
        exact nonempty (List.length_eq_zero_iff.mp (length_of_mapM_eq_ok collected).symm)
      rw [collected] at made
      cases made
      exact ⟨encoded, rfl, someEncoded, if_neg someEncoded⟩

end SqlDump.Statement
