import SqlDump.Dump.Blocking
import SqlDump.Proofs.Dump.Section
import SqlDump.Proofs.Session.Log
import SqlDump.Proofs.Session.Run

/-!
# The statements of a dump

An inventory asks the server the same questions as a dump and writes nothing: the
tables of a database, and for each its definition and its rows. Where there is an
inventory there is a dump, and the statements of the dump are those of the tables
between the opening and the closing ones.

Main statements: `dumpChunks_eq_ok` for the sections, and `statements_dump` for the
statements of the whole text.
-/

namespace SqlDump

open Server Dump Script

/-- What a dump shows of a table: its definition, where the server shows it, and the
rows as they are written. -/
structure TableContents where
  name : Text
  definition : Option Text
  rows : List Text
  deriving DecidableEq, Repr

namespace TableContents

/-- The statements that make a table and fill it. -/
def statements (options : DumpOptions) (contents : TableContents) : List Text :=
  (match contents.definition with
    | some definition =>
        (if options.withDrop then [Statement.drop contents.name] else []) ++ [definition]
    | none => []) ++
  (if contents.rows = [] then []
    else [Statement.insertion options.insertMode contents.name contents.rows])

/-- The sections that show a table. -/
def sections (options : DumpOptions) (formatter : Formatter) (contents : TableContents) :
    List Text :=
  (contents.definition.map (formatter.structureSection contents.name)).toList ++
    if options.withData then [formatter.dataText contents.name contents.rows] else []

/-- The sections that show tables of a database, from the header to the footer. -/
def chunks (options : DumpOptions) (formatter : Formatter) (database : Text)
    (tables : List TableContents) : List Text :=
  formatter.header database :: tables.flatMap (·.sections options formatter) ++
    [Formatter.footer]

/-- Whether the rows of a table are those of stored values, and are there only where they
are wanted. -/
structure IsWritten (options : DumpOptions) (contents : TableContents) : Prop where
  encoded : ∃ values : List (List Value), values.mapM Literal.encodeRow = .ok contents.rows
  bare : options.withData = false → contents.rows = []

/-- Whether a table can stand in a script: its name fits a comment line and a quoted
name, and its definition is a statement. -/
structure FitsScript (contents : TableContents) : Prop where
  oneLine : .char '\n' ∉ contents.name
  clean : .char '\\' ∉ contents.name
  standsAlone : ∀ definition ∈ contents.definition, StandsAlone definition

theorem FitsScript.intact {contents : TableContents} (fits : contents.FitsScript) :
    Statement.isIntact contents.name = true :=
  Statement.isIntact_of_not_mem fits.clean

end TableContents

namespace Blocking

variable {α β : Type}

/-! ## Inventories -/

/-- The contents of a table. -/
def contentsOf (settings : Settings) (options : DumpOptions) (database table : Text) :
    Blocking TableContents := do
  let definition ← showDefinition settings database table
  if options.withData then
    let result ← fetchTable settings database table
    let rows ← ofExcept ((rowTexts result).mapError .row)
    return { name := table, definition, rows }
  else return { name := table, definition, rows := [] }

/-- The contents of tables. -/
def contentsOfEach (settings : Settings) (options : DumpOptions) (database : Text) :
    List Text → Blocking (List TableContents)
  | [] => done []
  | table :: rest => do
      let first ← contentsOf settings options database table
      let others ← contentsOfEach settings options database rest
      return first :: others

/-- The contents of the tables of a database. -/
def inventory (settings : Settings) (options : DumpOptions) (database : Text) :
    Blocking (List TableContents) := do
  contentsOfEach settings options database (← listTables settings database)

/-! ## Runs -/

section Tables

variable {settings : Settings} {options : DumpOptions} {database : Text}

/-- The contents of a table are made of the answers to its questions. -/
theorem contentsOf_run_eq_ok {table : Text} {session after : Session} {contents : TableContents}
    (answered : contentsOf settings options database table session = (.ok contents, after)) :
    ∃ definition between,
      showDefinition settings database table session = (.ok definition, between) ∧
        if options.withData then
          ∃ result rows, fetchTable settings database table between = (.ok result, after) ∧
            rowTexts result = .ok rows ∧ contents = { name := table, definition, rows }
        else after = between ∧ contents = { name := table, definition, rows := [] } := by
  obtain ⟨definition, between, shown, answered⟩ := bind_run_eq_ok answered
  refine ⟨definition, between, shown, ?_⟩
  cases withData : options.withData with
  | true =>
      simp only [withData, if_true] at answered ⊢
      obtain ⟨result, fetchedAt, fetched, written⟩ := bind_run_eq_ok answered
      obtain ⟨rows, writtenAt, collected, ended⟩ := bind_run_eq_ok written
      obtain ⟨rowsMade, rfl⟩ := ofExcept_run_eq_ok collected
      cases ended
      exact ⟨result, rows, fetched, mapError_eq_ok_iff.mp rowsMade, rfl⟩
  | false =>
      simp only [withData, Bool.false_eq_true, if_false] at answered ⊢
      cases answered
      exact ⟨rfl, rfl⟩

theorem isWritten_of_contentsOf {table : Text} {session after : Session}
    {contents : TableContents}
    (answered : contentsOf settings options database table session = (.ok contents, after)) :
    contents.IsWritten options := by
  obtain ⟨definition, between, -, answered⟩ := contentsOf_run_eq_ok answered
  split at answered
  next withData =>
    obtain ⟨result, rows, -, written, rfl⟩ := answered
    obtain ⟨values, -, collected⟩ := rowTexts_eq_ok written
    exact ⟨⟨values, collected⟩, fun bare => nomatch bare.symm.trans withData⟩
  next =>
    obtain ⟨-, rfl⟩ := answered
    exact ⟨⟨[], rfl⟩, fun _ => rfl⟩

/-- The sections of a table are there where its contents are. -/
theorem tableChunks_eq_ok {table : Text} {left right after : Session} {contents : TableContents}
    (formatter : Formatter) (same : left.silent = right.silent)
    (answered : contentsOf settings options database table right = (.ok contents, after)) :
    ∃ behind,
      tableChunks settings options formatter database table left =
          (.ok (contents.sections options formatter), behind) ∧
        behind.silent = after.silent := by
  obtain ⟨definition, between, shown, answered⟩ := contentsOf_run_eq_ok answered
  obtain ⟨between', shown', same⟩ :=
    (onServer_showDefinition settings database table).ignoresLog.run_eq_ok same shown
  rw [tableChunks, bind_run_of_eq_ok shown']
  split at answered
  next withData =>
    obtain ⟨result, rows, fetched, written, rfl⟩ := answered
    obtain ⟨fetchedAt', fetched', same⟩ :=
      (onServer_fetchTable settings database table).ignoresLog.run_eq_ok same fetched
    rw [if_pos withData, bind_run_of_eq_ok fetched', Formatter.dataSection_eq, written,
      TableContents.sections, if_pos withData]
    exact ⟨_, rfl, same⟩
  next withoutData =>
    obtain ⟨rfl, rfl⟩ := answered
    rw [if_neg withoutData, TableContents.sections, if_neg withoutData, List.append_nil]
    exact ⟨_, rfl, same⟩

/-- The sections of tables are there where their contents are. -/
theorem tablesChunks_eq_ok {names : List Text} {left right after : Session}
    {tables : List TableContents} (formatter : Formatter) (same : left.silent = right.silent)
    (answered : contentsOfEach settings options database names right = (.ok tables, after)) :
    ∃ behind,
      tablesChunks settings options formatter database names left =
          (.ok (tables.flatMap (·.sections options formatter)), behind) ∧
        behind.silent = after.silent ∧ ∀ contents ∈ tables, contents.IsWritten options := by
  induction names generalizing left right tables with
  | nil =>
      cases answered
      exact ⟨left, rfl, same, by simp⟩
  | cons table rest hypothesis =>
      obtain ⟨contents, between, firstAnswered, remaining⟩ := bind_run_eq_ok answered
      obtain ⟨others, ended, othersAnswered, collected⟩ := bind_run_eq_ok remaining
      cases collected
      obtain ⟨behind, made, same⟩ := tableChunks_eq_ok formatter same firstAnswered
      obtain ⟨end', othersMade, sameEnd, othersWritten⟩ := hypothesis same othersAnswered
      refine ⟨end', ?_, sameEnd, ?_⟩
      · rw [tablesChunks, bind_run_of_eq_ok made, bind_run_of_eq_ok othersMade]
        rfl
      · intro other member
        rcases List.mem_cons.mp member with rfl | inOthers
        · exact isWritten_of_contentsOf firstAnswered
        · exact othersWritten other inOthers

/-- Where there is an inventory there are the sections of a dump. -/
theorem dumpChunks_eq_ok {left right after : Session} {tables : List TableContents}
    (formatter : Formatter) (same : left.silent = right.silent)
    (answered : inventory settings options database right = (.ok tables, after)) :
    ∃ behind,
      dumpChunks settings options formatter database left =
          (.ok (TableContents.chunks options formatter database tables), behind) ∧
        ∀ contents ∈ tables, contents.IsWritten options := by
  obtain ⟨names, listedAt, listed, answered⟩ := bind_run_eq_ok answered
  obtain ⟨listedAt', listed', same⟩ :=
    (onServer_listTables settings database).ignoresLog.run_eq_ok same listed
  obtain ⟨behind, made, -, written⟩ := tablesChunks_eq_ok formatter same answered
  refine ⟨behind, ?_, written⟩
  rw [dumpChunks, bind_run_of_eq_ok listed', bind_run_of_eq_ok made]
  rfl

end Tables

/-! ## Statements -/

/-- The sections of a table that fits a script emit its statements. -/
theorem emits_sections {options : DumpOptions} (clock : Clock) {contents : TableContents}
    (fits : contents.FitsScript) (written : contents.IsWritten options) :
    Emits (contents.sections options { options, clock }).flatten (contents.statements options) := by
  have structureEmits : Emits
      ((contents.definition.map
        (Formatter.structureSection { options, clock } contents.name)).toList.flatten)
      (match contents.definition with
        | some definition =>
            (if options.withDrop then [Statement.drop contents.name] else []) ++ [definition]
        | none => []) := by
    cases shown : contents.definition with
    | none => exact emits_nil
    | some definition =>
        have emits := Formatter.emits_structureSection options clock
          fits.oneLine fits.intact (fits.standsAlone definition shown)
        simpa using emits
  have dataEmits : Emits
      ((if options.withData then
        [Formatter.dataText { options, clock } contents.name contents.rows] else []).flatten)
      (if contents.rows = [] then []
        else [Statement.insertion options.insertMode contents.name contents.rows]) := by
    cases withData : options.withData with
    | true =>
        obtain ⟨values, collected⟩ := written.encoded
        simpa using Formatter.emits_dataText options clock fits.oneLine fits.intact collected
    | false => simp [written.bare withData]
  rw [TableContents.sections, List.flatten_append]
  exact structureEmits.append dataEmits

/-- Where the server answers an inventory, a dump of the same database has the opening
statements, those of each table in order, and the closing statements. -/
theorem statements_dump {settings : Settings} {options : DumpOptions} {clock : Clock}
    {database : Text} {session after : Session} {tables : List TableContents}
    (title : .char '\n' ∉ options.headerTitle) (named : .char '\n' ∉ database)
    (answered : inventory settings options database session = (.ok tables, after))
    (fit : ∀ contents ∈ tables, contents.FitsScript) :
    ∃ dumped behind,
      dump settings options { options, clock } database session = (.ok dumped, behind) ∧
        statements dumped =
          prologue ++ tables.flatMap (·.statements options) ++ epilogue := by
  obtain ⟨behind, made, written⟩ := dumpChunks_eq_ok { options, clock } rfl answered
  have header := Formatter.emits_header options clock title named
  have eachEmits : ∀ contents ∈ tables,
      Emits (contents.sections options { options, clock }).flatten
        (contents.statements options) :=
    fun contents member => emits_sections clock (fit contents member) (written contents member)
  have whole := (header.append (emits_flatMap eachEmits)).append emits_footer
  refine ⟨_, behind, ?_, whole.statements_eq⟩
  rw [dump, bind_run_of_eq_ok made, pure_apply]
  simp [TableContents.chunks, List.flatMap_def, List.flatten_flatten, Function.comp_def]

theorem run_eq_ok_of_toOption {ran : Except Failure α × Session} {value : α}
    (succeeded : ran.1.toOption = some value) : ran = (.ok value, ran.2) := by
  obtain ⟨result, after⟩ := ran
  cases result with
  | error failure => cases succeeded
  | ok found =>
      cases succeeded
      rfl

/-- A server whose only table has a name, a definition and a row that look like the end
of a statement. -/
def hostileSession : Session :=
  let cursor (rows : List (List Client.Raw)) : CursorScript :=
    { reply := { description := some (List.replicate 2 { name := [], fieldType := 3 }) }, rows }
  { context := { attached := true }
    wire :=
      { script :=
          { cursors :=
              [cursor [[.text (text "t`;--'")]],
                cursor [[.nothing, .text (text "CREATE TABLE `t``;--'` (a INT)")]],
                cursor [[.integer (-1), .text (text "';\\--")]]] } } }

/-- What a dump shows of that table. -/
def hostileTable : TableContents :=
  { name := text "t`;--'"
    definition := some (text "CREATE TABLE `t``;--'` (a INT)")
    rows := [text "(-1, '\\';\\\\--')"] }

theorem statements_dump_hostile :
    .char '\n' ∉ ({ withDrop := true } : DumpOptions).headerTitle ∧ .char '\n' ∉ text "shop" ∧
    inventory {} { withDrop := true } (text "shop") hostileSession =
      (.ok [hostileTable], (inventory {} { withDrop := true } (text "shop") hostileSession).2) ∧
    (∀ contents ∈ [hostileTable], contents.FitsScript) ∧
    ∃ dumped behind,
      dump {} { withDrop := true }
          { options := { withDrop := true }
            clock := { moment := { year := 2024, month := 2, day := 29 }, offset := some 3600 } }
          (text "shop") hostileSession = (.ok dumped, behind) ∧
        statements dumped =
          prologue ++ [hostileTable].flatMap (·.statements { withDrop := true }) ++ epilogue := by
  have title : .char '\n' ∉ ({ withDrop := true } : DumpOptions).headerTitle := by decide
  have named : .char '\n' ∉ text "shop" := by decide
  have answered : inventory {} { withDrop := true } (text "shop") hostileSession =
      (.ok [hostileTable],
        (inventory {} { withDrop := true } (text "shop") hostileSession).2) :=
    run_eq_ok_of_toOption (by decide +kernel)
  have fit : ∀ contents ∈ [hostileTable], contents.FitsScript := by
    intro contents member
    rw [List.mem_singleton.mp member]
    refine ⟨by decide, by decide, fun definition shown => ?_⟩
    rw [← Option.mem_some.mp shown]
    exact ⟨by decide +kernel, by decide +kernel⟩
  exact ⟨title, named, answered, fit, statements_dump title named answered fit⟩

end Blocking

end SqlDump
