import SqlDump.Dump.Section
import SqlDump.Proofs.Statement.Name

/-!
# The statements of sections

Each section of a dump is made of comment lines, empty lines and statements in front
of their delimiters. A comment line ends with its newline as long as what it shows
has none, and a quoted name ends with its backtick as long as the name is intact.

Main statements: `emits_header`, `emits_structureSection`, `emits_dataText` and
`emits_footer`.
-/

namespace SqlDump

open Script

/-! ## Comments -/

namespace Dump

/-- A line that is a comment. -/
def commentLine (content : Text) : Text :=
  .char '-' :: .char '-' :: (content ++ [.char '\n'])

/-- A line comment goes as far as the next newline. -/
theorem scan_lineComment {content : Text} (oneLine : .char '\n' ∉ content) (rest : Text) :
    scan { mode := .lineComment } (content ++ .char '\n' :: rest) =
      (scan .start rest).behind [.kept (.char '\n')] := by
  induction content with
  | nil =>
      rw [List.nil_append, scan_step]
      rfl
  | cons symbol others hypothesis =>
      simp only [List.mem_cons, not_or] at oneLine
      have advance : ∀ next, State.advance { mode := .lineComment } symbol next =
          (none, { mode := .lineComment }) := by
        intro next
        simp [State.advance, advanceLineComment, Ne.symm oneLine.1]
      rw [List.cons_append, scan_step, advance]
      exact hypothesis oneLine.2

/-- A comment line leaves nothing but its newline. -/
theorem emits_commentLine {content : Text} (oneLine : .char '\n' ∉ content) :
    Emits (commentLine content) [] := by
  have scanned : ∀ rest, scan .start (commentLine content ++ rest) =
      (scan .start rest).behind (kept [.char '\n']) := by
    intro rest
    have opened : scan .start (commentLine content ++ rest) =
        scan { mode := .lineComment } (.char '-' :: content ++ .char '\n' :: rest) := by
      simp only [commentLine, List.cons_append, List.append_assoc, List.nil_append]
      rw [scan_step]
      rfl
    rw [opened, scan_lineComment (by simp [oneLine])]
    rfl
  exact emits_of_blank scanned (by simp; decide)

/-! ## Statements on lines -/

/-- Statements that stand alone are emitted, one a line. -/
theorem emits_lines {statements : List Text}
    (each : ∀ statement ∈ statements, StandsAlone statement) :
    Emits (lines statements) statements := by
  simpa [lines] using emits_flatMap fun statement member => (each statement member).emits_line

/-- The statements around the tables stand alone. -/
theorem standsAlone_of_mem {statement : Text} (listed : statement ∈ prologue ++ epilogue) :
    StandsAlone statement := by
  have each : ∀ statement ∈ prologue ++ epilogue,
      scan .start statement = { marks := kept statement, final := .start } ∧ statement ≠ [] ∧
        Text.strip statement = statement := by
    decide +kernel
  obtain ⟨scanned, nonempty, trimmed⟩ := each statement listed
  exact standsAlone_of_scan scanned nonempty trimmed

theorem emits_prologueText : Emits prologueText prologue := by
  have group : ∀ group ∈ prologueGroups, Emits (lines group ++ text "\n") group := by
    intro group member
    have standsAlone : ∀ statement ∈ group, StandsAlone statement := by
      intro statement inGroup
      apply standsAlone_of_mem
      exact List.mem_append_left _ (List.mem_flatten.mpr ⟨group, member, inGroup⟩)
    have emits := (emits_lines standsAlone).append (emits_newlines 1)
    simpa [text] using emits
  simpa [prologueText, prologue, List.flatMap_id'] using emits_flatMap group

theorem emits_footer : Emits Formatter.footer epilogue :=
  emits_lines fun _ member => standsAlone_of_mem (List.mem_append_right _ member)

/-! ## Sections -/

theorem newline_not_mem_padded (width : Nat) (number : Int) :
    .char '\n' ∉ Numeral.padded width number := by
  have noDigit : ∀ digit : Digit, .char '\n' ≠ digit.symbol := by decide
  intro member
  rcases Numeral.mem_padded member with dash | ⟨digit, same⟩
  · exact absurd dash (by decide)
  · exact noDigit digit same

/-- No name of a list has a newline, nor has what stands for a missing one. -/
theorem newline_not_mem_listed {names : List String}
    (each : ∀ name ∈ names, .char '\n' ∉ text name) (place : Nat) :
    .char '\n' ∉ text (names[place]?.getD "") := by
  cases found : names[place]? with
  | none => simp
  | some name => exact each name (List.mem_of_getElem? found)

theorem newline_not_mem_zone (offset : Option Int) : .char '\n' ∉ Clock.zone offset := by
  cases offset with
  | none => decide
  | some offset =>
      have sign : .char '\n' ∉ text (if offset < 0 then "-" else "+") := by
        split <;> decide
      have seconds : .char '\n' ∉ (if (offset.natAbs : Int) % 60 = 0 then []
          else Numeral.padded 2 ((offset.natAbs : Int) % 60)) := by
        split
        · simp
        · exact newline_not_mem_padded _ _
      simp only [Clock.zone, List.mem_append, not_or]
      exact ⟨⟨⟨sign, newline_not_mem_padded _ _⟩, newline_not_mem_padded _ _⟩, seconds⟩

/-- A stamp fits one line, whatever the clock shows. -/
theorem newline_not_mem_stamp (clock : Clock) : .char '\n' ∉ clock.stamp := by
  have day : ∀ place : Nat, .char '\n' ∉ text (Clock.dayNames[place]?.getD "") :=
    newline_not_mem_listed (by decide)
  have month : ∀ place : Nat, .char '\n' ∉ text (Clock.monthNames[place]?.getD "") :=
    newline_not_mem_listed (by decide)
  have separators : ∀ separator ∈ [", ", " ", ":"], .char '\n' ∉ text separator := by decide
  simp only [Clock.stamp, List.mem_append, not_or]
  simp [day, month, newline_not_mem_padded, newline_not_mem_zone, separators]

/-- The comment in front of a section emits nothing. -/
theorem emits_comment (what : String) {table : Text} (oneWord : .char '\n' ∉ text what)
    (oneLine : .char '\n' ∉ table) : Emits (Formatter.comment what table) [] := by
  have name := Statement.newline_not_mem_identifier oneLine
  have regrouped : Formatter.comment what table =
      commentLine [] ++ commentLine (text " " ++ text what ++ text " " ++
        Statement.identifier table) ++ commentLine [] ++ List.replicate 1 (.char '\n') := by
    simp [Formatter.comment, commentLine, text]
  have emptyLine : Emits (commentLine []) [] := emits_commentLine (by simp)
  have space : .char '\n' ∉ text " " := by decide
  have subject : Emits (commentLine (text " " ++ text what ++ text " " ++
      Statement.identifier table)) [] :=
    emits_commentLine (by
      simp only [List.mem_append, space, oneWord, name, or_self, not_false_eq_true])
  rw [regrouped]
  exact ((emptyLine.append subject).append emptyLine).append (emits_newlines 1)

/-- The rows of a result as they are written, where each of them can be. -/
def rowTexts (result : Server.Result) : Except Literal.RowError (List Text) :=
  match result.typedRows .standard with
  | .error error => .error (.adapt error)
  | .ok rows => (rows.mapM Literal.encodeRow).mapError .numeral

/-- Rows can be written where their values are stored ones that can be encoded. -/
theorem rowTexts_eq_ok {result : Server.Result} {encoded : List Text}
    (written : rowTexts result = .ok encoded) :
    ∃ rows, result.typedRows .standard = .ok rows ∧
      rows.mapM Literal.encodeRow = .ok encoded := by
  simp only [rowTexts] at written
  split at written
  next => cases written
  next rows adapted =>
    refine ⟨rows, adapted, ?_⟩
    cases collected : rows.mapM Literal.encodeRow with
    | error error => simp [collected, Except.mapError] at written
    | ok found => simpa [collected, Except.mapError] using written

namespace Formatter

variable (options : DumpOptions) (clock : Clock)

/-- A header emits the opening statements behind those of the lines that show its title and
its database. -/
theorem emits_header_of_lines {database : Text} {titleEmitted nameEmitted : List Text}
    (titleEmits : Emits (commentLine (text " " ++ options.headerTitle)) titleEmitted)
    (nameEmits : Emits (commentLine (text " Database: " ++ database)) nameEmitted) :
    Emits (Formatter.header { options, clock } database)
      (titleEmitted ++ nameEmitted ++ prologue) := by
  have stamp := newline_not_mem_stamp clock
  have regrouped : Formatter.header { options, clock } database =
      commentLine (text " " ++ options.headerTitle) ++
        commentLine (text " Database: " ++ database) ++
        (commentLine (text " Date: " ++ clock.stamp) ++ List.replicate 1 (.char '\n') ++
          prologueText) := by
    simp [header, commentLine, text]
  have stampLine : Emits (commentLine (text " Date: " ++ clock.stamp)) [] :=
    emits_commentLine (by simp [text, stamp])
  have opening := (stampLine.append (emits_newlines 1)).append emits_prologueText
  rw [regrouped]
  simpa only [List.nil_append] using (titleEmits.append nameEmits).append opening

theorem emits_titleLine (title : .char '\n' ∉ options.headerTitle) :
    Emits (commentLine (text " " ++ options.headerTitle)) [] :=
  emits_commentLine (by simp [text, title])

theorem emits_header {database : Text} (title : .char '\n' ∉ options.headerTitle)
    (name : .char '\n' ∉ database) :
    Emits (Formatter.header { options, clock } database) prologue := by
  have nameLine : Emits (commentLine (text " Database: " ++ database)) [] :=
    emits_commentLine (by simp [text, name])
  simpa only [List.nil_append] using
    emits_header_of_lines options clock (emits_titleLine options title) nameLine

/-- The structure of a table emits its removal, where that is wanted, and its definition. -/
theorem emits_structureSection {table definition : Text} (oneLine : .char '\n' ∉ table)
    (intact : Statement.isIntact table = true) (standsAlone : StandsAlone definition) :
    Emits (Formatter.structureSection { options, clock } table definition)
      ((if options.withDrop then [Statement.drop table] else []) ++ [definition]) := by
  have removal : Emits (if options.withDrop then Statement.dropTable table else [])
      (if options.withDrop then [Statement.drop table] else []) := by
    split
    · exact Statement.emits_dropTable intact
    · exact emits_nil
  have regrouped : Formatter.structureSection { options, clock } table definition =
      comment "Structure for table" table ++
        (if options.withDrop then Statement.dropTable table else []) ++
        ((definition ++ [.char ';']) ++ List.replicate 2 (.char '\n')) := by
    simp [structureSection, text, List.replicate]
  rw [regrouped]
  exact ((emits_comment _ (by decide) oneLine).append removal).append
    (standsAlone.emits.append (emits_newlines 2))

/-- The section of the data of a table, with rows as they are written. -/
def dataText (formatter : Formatter) (table : Text) (encoded : List Text) : Text :=
  comment "Dumping data for table" table ++
    Statement.insertions formatter.options.insertMode table encoded

/-- The data of a table can be written where each of its rows can. -/
theorem dataSection_eq (formatter : Formatter) (table : Text) (result : Server.Result) :
    formatter.dataSection table result = (rowTexts result).map (formatter.dataText table) := by
  rw [dataSection, rowTexts]
  cases result.typedRows .standard with
  | error error => rfl
  | ok rows =>
      simp only [Statement.insert_eq]
      cases rows.mapM Literal.encodeRow <;> rfl

/-- The data of a table emit one insertion unless there are no rows. -/
theorem emits_dataText {table : Text} {rows : List (List Value)} {encoded : List Text}
    (oneLine : .char '\n' ∉ table) (intact : Statement.isIntact table = true)
    (collected : rows.mapM Literal.encodeRow = .ok encoded) :
    Emits (dataText { options, clock } table encoded)
      (if encoded = [] then [] else [Statement.insertion options.insertMode table encoded]) :=
  (emits_comment "Dumping data for table" (by decide) oneLine).append
    (Statement.emits_insertions options.insertMode intact collected)

end Formatter

end Dump

end SqlDump
