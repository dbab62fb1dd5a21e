import Mathlib.Algebra.Group.Int.Defs
import SqlDump.Proofs.Dump.Section
import SqlDump.Proofs.Dump.Waiting
import SqlDump.Proofs.Session.Frame
import SqlDump.Proofs.Storage.Files

/-!
# Exports that fail

An export asks for the tables of a database, and for each of them for its definition and
its rows. It fails at the first question that is answered with a fault, or at the first
value that cannot be written. Up to there it has opened no file, and where there is
nothing that fails the file is written at once, from the header to the footer. Only a lone
surrogate in a title or a definition can stop it then.

Main statements: `dataSection_eq_error_iff` for values, `made_or_fails` for what can
happen to an export, and `writeDump_all_or_nothing` for the file.
-/

namespace SqlDump

open Server Dump

/-! ## Values that cannot be written -/

namespace Server.Result

/-- The values of the rows, row by row, with the hints for them. -/
def cells (result : Result) : List (Client.Raw × Option Kind) :=
  result.rows.flatMap (·.zip result.hints)

/-- The first value that no adapter takes decides about the error of the rows. -/
theorem typedRows_eq_error_iff {result : Result} {adapters : Adapters} {error : AdaptError} :
    result.typedRows adapters = .error error ↔
      FirstFails (fun cell => adapters.store cell.2 cell.1) result.cells error := by
  have regrouped : result.typedRows adapters =
      (result.rows.map (·.zip result.hints)).mapM fun row =>
        row.mapM fun cell => adapters.store cell.2 cell.1 := by
    rw [typedRows, List.mapM_map]
    rfl
  rw [regrouped, mapM_eq_error_iff, firstFails_mapM_iff, cells, List.flatMap_def]

end Server.Result

/-- The first value that cannot be encoded decides about the error of the rows. -/
theorem Literal.mapM_encodeRow_eq_error_iff {rows : List (List Value)} {error : Numeral.Error} :
    rows.mapM Literal.encodeRow = .error error ↔
      FirstFails Literal.encode rows.flatten error := by
  have encoded : Literal.encodeRow = fun values =>
      (values.mapM Literal.encode).map Literal.joinRow := by
    funext values
    rw [Literal.encodeRow]
    cases values.mapM Literal.encode <;> rfl
  rw [mapM_eq_error_iff, encoded, firstFails_map_iff, firstFails_mapM_iff]

/-- A value of a result that cannot be written: the first one without a stored value or,
where all have one, the first one without a literal. -/
inductive ValueFails (result : Result) : Literal.RowError → Prop
  | adapt {error : AdaptError}
      (fails : FirstFails (fun cell => Adapters.standard.store cell.2 cell.1) result.cells error) :
      ValueFails result (.adapt error)
  | numeral {rows : List (List Value)} {error : Numeral.Error}
      (adapted : result.typedRows .standard = .ok rows)
      (fails : FirstFails Literal.encode rows.flatten error) :
      ValueFails result (.numeral error)

/-- Rows cannot be written where a value cannot. -/
theorem rowTexts_eq_error_iff {result : Result} {error : Literal.RowError} :
    rowTexts result = .error error ↔ ValueFails result error := by
  constructor
  · intro failed
    rw [rowTexts] at failed
    cases adapted : result.typedRows .standard with
    | error found =>
        rw [adapted] at failed
        cases failed
        exact .adapt (Result.typedRows_eq_error_iff.mp adapted)
    | ok rows =>
        cases collected : rows.mapM Literal.encodeRow with
        | ok encoded => simp [adapted, collected, Except.mapError] at failed
        | error found =>
            simp only [adapted, collected, Except.mapError] at failed
            cases failed
            exact .numeral adapted (Literal.mapM_encodeRow_eq_error_iff.mp collected)
  · intro fails
    cases fails with
    | adapt fails => rw [rowTexts, Result.typedRows_eq_error_iff.mpr fails]
    | numeral adapted fails =>
        simp only [rowTexts, adapted, Literal.mapM_encodeRow_eq_error_iff.mpr fails,
          Except.mapError]

theorem dataSection_eq_error_iff {formatter : Formatter} {table : Text} {result : Result}
    {error : Literal.RowError} :
    formatter.dataSection table result = .error error ↔ ValueFails result error := by
  rw [← rowTexts_eq_error_iff, Formatter.dataSection_eq]
  cases rowTexts result <;> simp [Except.map]

/-! ## Exports -/

namespace Export

section Runs

variable (settings : Settings) (options : DumpOptions) (formatter : Formatter) (database : Text)

/-- The sections of a table, and the session behind them. -/
inductive TableMade (session : Session) (table : Text) : List Text → Session → Prop
  | bare {definition : Option Text} {after : Session} (withoutRows : options.withData = false)
      (shown : Blocking.showDefinition settings database table session = (.ok definition, after)) :
      TableMade session table (definition.map (formatter.structureSection table)).toList after
  | filled {definition : Option Text} {result : Result} {data : Text} {between after : Session}
      (withRows : options.withData = true)
      (shown : Blocking.showDefinition settings database table session =
        (.ok definition, between))
      (fetched : Blocking.fetchTable settings database table between = (.ok result, after))
      (written : formatter.dataSection table result = .ok data) :
      TableMade session table
        ((definition.map (formatter.structureSection table)).toList ++ [data])
        (after.noted .dump .debug (Notice.dumpingRows result table))

/-- What a table fails with: a question about it, or a value in its rows. -/
inductive TableFails (session : Session) (table : Text) : Failure → Prop
  | definition {failure : Failure} {after : Session}
      (raised : Blocking.showDefinition settings database table session =
        (.error failure, after)) :
      TableFails session table failure
  | rows {definition : Option Text} {failure : Failure} {between after : Session}
      (withRows : options.withData = true)
      (shown : Blocking.showDefinition settings database table session =
        (.ok definition, between))
      (raised : Blocking.fetchTable settings database table between = (.error failure, after)) :
      TableFails session table failure
  | value {definition : Option Text} {result : Result} {error : Literal.RowError}
      {between after : Session} (withRows : options.withData = true)
      (shown : Blocking.showDefinition settings database table session =
        (.ok definition, between))
      (fetched : Blocking.fetchTable settings database table between = (.ok result, after))
      (fails : ValueFails result error) :
      TableFails session table (.row error)

/-- The sections of tables, one table after another. -/
inductive TablesMade : Session → List Text → List Text → Session → Prop
  | nil (session : Session) : TablesMade session [] [] session
  | cons {session between after : Session} {table : Text} {rest sections others : List Text}
      (first : TableMade settings options formatter database session table sections between)
      (remaining : TablesMade between rest others after) :
      TablesMade session (table :: rest) (sections ++ others) after

/-- The sections of all tables of a database, and the session behind them. -/
inductive Made (session : Session) : List Text → Session → Prop
  | intro {tables sections : List Text} {listedAt after : Session}
      (listed : Blocking.listTables settings database session = (.ok tables, listedAt))
      (made : TablesMade settings options formatter database listedAt tables sections after) :
      Made session sections after

/-- What an export fails with: the question for the tables, or one of the tables behind
others that are made. -/
inductive Fails (session : Session) : Failure → Prop
  | listing {failure : Failure} {after : Session}
      (raised : Blocking.listTables settings database session = (.error failure, after)) :
      Fails session failure
  | table {before later sections : List Text} {table : Text} {failure : Failure}
      {listedAt between : Session}
      (listed : Blocking.listTables settings database session =
        (.ok (before ++ table :: later), listedAt))
      (made : TablesMade settings options formatter database listedAt before sections between)
      (fails : TableFails settings options database between table failure) :
      Fails session failure

end Runs

variable {settings : Settings} {options : DumpOptions} {formatter : Formatter} {database : Text}

/-! ## Sections -/

theorem TableMade.run_eq {session after : Session} {table : Text} {sections : List Text}
    (made : TableMade settings options formatter database session table sections after) :
    Blocking.tableChunks settings options formatter database table session =
      (.ok sections, after) := by
  cases made with
  | bare withoutRows shown =>
      rw [Blocking.tableChunks, Blocking.bind_run_of_eq_ok shown, withoutRows]
      rfl
  | filled withRows shown fetched written =>
      rw [Blocking.tableChunks, Blocking.bind_run_of_eq_ok shown, if_pos withRows,
        Blocking.bind_run_of_eq_ok fetched, written]
      rfl

theorem TableFails.run_eq {session : Session} {table : Text} {failure : Failure}
    (fails : TableFails settings options database session table failure)
    (formatter : Formatter) :
    ∃ after, Blocking.tableChunks settings options formatter database table session =
      (.error failure, after) := by
  cases fails with
  | definition raised =>
      rw [Blocking.tableChunks, Blocking.bind_run_of_eq_error raised]
      exact ⟨_, rfl⟩
  | rows withRows shown raised =>
      rw [Blocking.tableChunks, Blocking.bind_run_of_eq_ok shown, if_pos withRows,
        Blocking.bind_run_of_eq_error raised]
      exact ⟨_, rfl⟩
  | value withRows shown fetched fails =>
      rw [Blocking.tableChunks, Blocking.bind_run_of_eq_ok shown, if_pos withRows,
        Blocking.bind_run_of_eq_ok fetched, dataSection_eq_error_iff.mpr fails]
      exact ⟨_, rfl⟩

theorem table_made_or_fails (formatter : Formatter) (session : Session) (table : Text) :
    (∃ sections after,
        TableMade settings options formatter database session table sections after) ∨
      ∃ failure, TableFails settings options database session table failure := by
  cases shown : Blocking.showDefinition settings database table session with
  | mk outcome between =>
  cases outcome with
  | error failure => exact .inr ⟨failure, .definition shown⟩
  | ok definition =>
  cases wanted : options.withData with
  | false => exact .inl ⟨_, _, .bare wanted shown⟩
  | true =>
  cases fetched : Blocking.fetchTable settings database table between with
  | mk outcome after =>
  cases outcome with
  | error failure => exact .inr ⟨failure, .rows wanted shown fetched⟩
  | ok result =>
  cases written : formatter.dataSection table result with
  | ok data => exact .inl ⟨_, _, .filled wanted shown fetched written⟩
  | error error =>
      exact .inr ⟨_, .value wanted shown fetched (dataSection_eq_error_iff.mp written)⟩

theorem TablesMade.run_eq {session after : Session} {tables sections : List Text}
    (made : TablesMade settings options formatter database session tables sections after) :
    Blocking.tablesChunks settings options formatter database tables session =
      (.ok sections, after) := by
  induction made with
  | nil session => rfl
  | cons first remaining hypothesis =>
      rw [Blocking.tablesChunks, Blocking.bind_run_of_eq_ok first.run_eq,
        Blocking.bind_run_of_eq_ok hypothesis]
      rfl

/-- A table that fails behind others that are made ends the sections of them all. -/
theorem TablesMade.run_eq_of_fails {session between : Session} {before sections : List Text}
    (made : TablesMade settings options formatter database session before sections between)
    {table : Text} {failure : Failure}
    (fails : TableFails settings options database between table failure) (later : List Text) :
    ∃ after, Blocking.tablesChunks settings options formatter database
      (before ++ table :: later) session = (.error failure, after) := by
  induction made with
  | nil session =>
      obtain ⟨after, failed⟩ := fails.run_eq formatter
      refine ⟨after, ?_⟩
      rw [List.nil_append, Blocking.tablesChunks, Blocking.bind_run_of_eq_error failed]
  | cons first remaining hypothesis =>
      obtain ⟨after, failed⟩ := hypothesis fails
      refine ⟨after, ?_⟩
      rw [List.cons_append, Blocking.tablesChunks, Blocking.bind_run_of_eq_ok first.run_eq,
        Blocking.bind_run_of_eq_error failed]

/-- Tables are made one after another, up to the first one that fails. -/
theorem tables_made_or_fails (formatter : Formatter) (session : Session) (tables : List Text) :
    (∃ sections after,
        TablesMade settings options formatter database session tables sections after) ∨
      ∃ before table later sections between failure, tables = before ++ table :: later ∧
        TablesMade settings options formatter database session before sections between ∧
        TableFails settings options database between table failure := by
  induction tables generalizing session with
  | nil => exact .inl ⟨[], session, .nil session⟩
  | cons table rest hypothesis =>
      rcases table_made_or_fails formatter session table with
        ⟨sections, between, made⟩ | ⟨failure, fails⟩
      · rcases hypothesis between with
          ⟨others, after, othersMade⟩ |
          ⟨before, failing, later, others, there, failure, rfl, othersMade, fails⟩
        · exact .inl ⟨_, after, .cons made othersMade⟩
        · exact .inr ⟨_, failing, later, _, there, failure, rfl, .cons made othersMade, fails⟩
      · exact .inr ⟨[], table, rest, [], session, failure, rfl, .nil session, fails⟩

/-- The sections of an export stand between its header and its footer. -/
theorem Made.run_eq {session after : Session} {sections : List Text}
    (made : Made settings options formatter database session sections after) :
    Blocking.dumpChunks settings options formatter database session =
      (.ok (formatter.header database :: sections ++ [Formatter.footer]), after) := by
  obtain ⟨listed, made⟩ := made
  rw [Blocking.dumpChunks, Blocking.bind_run_of_eq_ok listed,
    Blocking.bind_run_of_eq_ok made.run_eq]
  rfl

theorem Fails.run_eq {session : Session} {failure : Failure}
    (fails : Fails settings options formatter database session failure) :
    ∃ after, Blocking.dumpChunks settings options formatter database session =
      (.error failure, after) := by
  cases fails with
  | listing raised =>
      rw [Blocking.dumpChunks, Blocking.bind_run_of_eq_error raised]
      exact ⟨_, rfl⟩
  | @table before later sections table failure listedAt between listed made fails =>
      obtain ⟨after, failed⟩ := made.run_eq_of_fails fails later
      rw [Blocking.dumpChunks, Blocking.bind_run_of_eq_ok listed,
        Blocking.bind_run_of_eq_error failed]
      exact ⟨_, rfl⟩

/-- An export is made, or something fails. -/
theorem made_or_fails (formatter : Formatter) (session : Session) :
    (∃ sections after, Made settings options formatter database session sections after) ∨
      ∃ failure, Fails settings options formatter database session failure := by
  cases listed : Blocking.listTables settings database session with
  | mk outcome listedAt =>
  cases outcome with
  | error failure => exact .inr ⟨failure, .listing listed⟩
  | ok tables =>
  rcases tables_made_or_fails formatter listedAt tables with
    ⟨sections, after, made⟩ |
    ⟨before, table, later, sections, between, failure, rfl, made, fails⟩
  · exact .inl ⟨sections, after, .intro listed made⟩
  · exact .inr ⟨failure, .table listed made fails⟩

/-! ## Files -/

section Files

variable {session : Session} {path : Text}

/-- The files are those of before until all sections are there. -/
theorem dumpChunks_files_eq {outcome : Except Failure (List Text)} {after : Session}
    (ran : Blocking.dumpChunks settings options formatter database
      (session.noted .dump .info (Notice.exporting database path)) = (outcome, after)) :
    after.context.files = session.context.files := by
  have kept := (Blocking.onServer_dumpChunks settings options formatter database).files_eq
    (session.noted .dump .info (Notice.exporting database path))
  rw [ran] at kept
  exact kept

theorem writeDump_run_of_error {failure : Failure} {after : Session}
    (failed : Blocking.dumpChunks settings options formatter database
      (session.noted .dump .info (Notice.exporting database path)) = (.error failure, after)) :
    Blocking.writeDump settings options formatter database path session =
      (.error failure, after) := by
  rw [Blocking.writeDump, Blocking.bind_run_of_eq_ok (Blocking.log_run_eq ..),
    Blocking.bind_run_of_eq_error failed]

/-- Where all sections are there the path decides, and then the sections. -/
theorem writeDump_run_of_ok {chunks : List Text} {after : Session}
    (made : Blocking.dumpChunks settings options formatter database
      (session.noted .dump .info (Notice.exporting database path)) = (.ok chunks, after)) :
    Blocking.writeDump settings options formatter database path session =
      match session.context.files.target path with
      | .error error => (.error (.file error), after)
      | .ok location =>
          let behind : Session :=
            { after with
              context.files := session.context.files.put location (writeChunks chunks).1 }
          match (writeChunks chunks).2 with
          | some failure => (.error (.file { fault := .unwritable failure, path }), behind)
          | none => (.ok (), behind.noted .dump .info (Notice.exported database)) := by
  have kept : { after with context.files := session.context.files } = after := by
    rw [← dumpChunks_files_eq made]
  rw [Blocking.writeDump, Blocking.bind_run_of_eq_ok (Blocking.log_run_eq ..),
    Blocking.bind_run_of_eq_ok made]
  simp only [Blocking.writeFile, bind_assoc]
  rw [Blocking.bind_run_of_eq_ok (Blocking.context_run _), dumpChunks_files_eq made, writeText,
    Files.write_eq]
  cases session.context.files.target path with
  | error error => exact congrArg (Except.error (Failure.file error), ·) kept
  | ok location => cases (writeChunks chunks).2 <;> rfl

/-- All sections are in the file that the path has opened, where they can be written. -/
theorem writeDump_run_of_opened {chunks : List Text} {after : Session} {location : Location}
    (made : Blocking.dumpChunks settings options formatter database
      (session.noted .dump .info (Notice.exporting database path)) = (.ok chunks, after))
    (opened : session.context.files.target path = .ok location)
    (writable : Text.hasLone chunks.flatten = false) :
    ∃ behind,
      Blocking.writeDump settings options formatter database path session = (.ok (), behind) ∧
        behind.context.files.read path = .ok (Utf8.encode chunks.flatten) := by
  have ran := writeDump_run_of_ok made
  rw [opened, writeChunks_snd_eq_none_iff.mpr writable] at ran
  have all : (writeChunks chunks).1 = Utf8.encode chunks.flatten := by
    rw [writeChunks_fst, List.takeWhile_eq_self_iff.mpr]
    simpa [Text.hasLone] using writable
  exact ⟨_, ran, all ▸ Files.read_put _ opened⟩

/-- A section with a lone surrogate stops the writing behind the sections in front of it. -/
theorem writeDump_run_of_unwritable {chunks : List Text} {after : Session} {location : Location}
    (made : Blocking.dumpChunks settings options formatter database
      (session.noted .dump .info (Notice.exporting database path)) = (.ok chunks, after))
    (opened : session.context.files.target path = .ok location)
    (unwritable : Text.hasLone chunks.flatten = true) :
    ∃ failure behind,
      Blocking.writeDump settings options formatter database path session =
          (.error (.file { fault := .unwritable failure, path }), behind) ∧
        behind.context.files.read path =
          .ok (Utf8.encode (chunks.takeWhile fun chunk => !chunk.hasLone).flatten) := by
  have ran := writeDump_run_of_ok made
  cases stopped : (writeChunks chunks).2 with
  | none => simp [writeChunks_snd_eq_none_iff.mp stopped] at unwritable
  | some failure =>
      rw [opened, stopped] at ran
      exact ⟨failure, _, ran, writeChunks_fst chunks ▸ Files.read_put _ opened⟩

theorem flatten_chunks (header footer : Text) (sections : List Text) :
    (header :: sections ++ [footer]).flatten = header ++ sections.flatten ++ footer := by
  simp

/-- An export that returns has made all sections, and its file holds them. -/
theorem writeDump_run_eq_ok {after : Session}
    (ran : Blocking.writeDump settings options formatter database path session =
      (.ok (), after)) :
    ∃ sections made octets,
      Made settings options formatter database
          (session.noted .dump .info (Notice.exporting database path)) sections made ∧
        Encoding.utf8.encode (formatter.header database ++ sections.flatten ++ Formatter.footer) =
          .ok octets ∧
        after.context.files.read path = .ok octets := by
  rcases made_or_fails formatter
      (session.noted .dump .info (Notice.exporting database path)) with
    ⟨sections, made, allMade⟩ | ⟨failure, fails⟩
  · cases opened : session.context.files.target path with
    | error error =>
        rw [writeDump_run_of_ok allMade.run_eq, opened] at ran
        cases ran
    | ok location =>
        cases lone : Text.hasLone (formatter.header database :: sections ++
            [Formatter.footer]).flatten with
        | true =>
            obtain ⟨failure, behind, stopped, -⟩ :=
              writeDump_run_of_unwritable allMade.run_eq opened lone
            rw [stopped] at ran
            cases ran
        | false =>
            obtain ⟨behind, written, read⟩ := writeDump_run_of_opened allMade.run_eq opened lone
            rw [written] at ran
            cases ran
            rw [flatten_chunks] at lone read
            exact ⟨sections, made, _, allMade, Encoding.encode_utf8_of_hasLone_eq_false lone, read⟩
  · obtain ⟨behind, failed⟩ := fails.run_eq
    rw [writeDump_run_of_error failed] at ran
    cases ran

end Files

end Export

namespace Session

open Export

/-- An export in which a question or a value fails ends with that failure and leaves all
files as they are. One in which nothing fails writes the whole dump, from the header to
the footer, or leaves all files as they are where the path cannot be written. A lone surrogate
in the dump stops the writing at its section. -/
theorem writeDump_all_or_nothing (session : Session) (waiting : Waiting) (settings : Settings)
    (options : DumpOptions) (formatter : Formatter) (database path : Text) :
    let begun := session.noted .dump .info (Notice.exporting database path)
    let ran := session.perform waiting settings (.writeDump options formatter database path)
    (∀ failure, Fails settings options formatter database begun failure →
      ran.1 = .error failure ∧ ran.2.context.files = session.context.files) ∧
    ((∀ failure, ¬Fails settings options formatter database begun failure) →
      ∃ sections after, Made settings options formatter database begun sections after ∧
        match session.context.files.target path with
        | .error error =>
            ran.1 = .error (.file error) ∧ ran.2.context.files = session.context.files
        | .ok _ =>
            match Encoding.utf8.encode
                (formatter.header database ++ sections.flatten ++ Formatter.footer) with
            | .ok octets => ran.1 = .ok .nothing ∧ ran.2.context.files.read path = .ok octets
            | .error _ =>
                (∃ failure, ran.1 = .error (.file { fault := .unwritable failure, path })) ∧
                  ran.2.context.files.read path =
                    .ok (Utf8.encode
                      ((formatter.header database :: sections ++ [Formatter.footer]).takeWhile
                        fun chunk => !chunk.hasLone).flatten)) := by
  intro begun ran
  have performed := perform_writeDump settings options formatter database session waiting path
  constructor
  · intro failure fails
    obtain ⟨after, failed⟩ := fails.run_eq
    rw [writeDump_run_of_error failed] at performed
    exact ⟨congrArg Prod.fst performed,
      (congrArg (·.2.context.files) performed).trans (dumpChunks_files_eq failed)⟩
  · intro nothingFails
    obtain ⟨sections, after, made⟩ :=
      (made_or_fails formatter begun).resolve_right fun ⟨failure, fails⟩ =>
        nothingFails failure fails
    refine ⟨sections, after, made, ?_⟩
    cases opened : session.context.files.target path with
    | error error =>
        rw [writeDump_run_of_ok made.run_eq, opened] at performed
        exact ⟨congrArg Prod.fst performed,
          (congrArg (·.2.context.files) performed).trans (dumpChunks_files_eq made.run_eq)⟩
    | ok location =>
        dsimp only
        rw [← flatten_chunks]
        cases lone : Text.hasLone (formatter.header database :: sections ++
            [Formatter.footer]).flatten with
        | false =>
            obtain ⟨behind, written, read⟩ := writeDump_run_of_opened made.run_eq opened lone
            rw [written] at performed
            rw [Encoding.encode_utf8_of_hasLone_eq_false lone]
            have files : ran.2.context.files = behind.context.files :=
              congrArg (·.2.context.files) performed
            exact ⟨congrArg Prod.fst performed, files ▸ read⟩
        | true =>
            obtain ⟨failure, behind, stopped, read⟩ :=
              writeDump_run_of_unwritable made.run_eq opened lone
            obtain ⟨unwritable, refused⟩ := Encoding.encode_utf8_eq_error_iff.mpr lone
            rw [stopped] at performed
            rw [refused]
            have files : ran.2.context.files = behind.context.files :=
              congrArg (·.2.context.files) performed
            exact ⟨⟨failure, congrArg Prod.fst performed⟩, files ▸ read⟩

/-- A cursor that answers with rows of at most two values. -/
def rowsCursor (rows : List (List Client.Raw)) : CursorScript :=
  { reply := { description := some (List.replicate 2 { name := [], fieldType := 3 }) }, rows }

/-- A server with two tables, of which the second one has a value that no column can hold. -/
def overflowingSession : Session :=
  { context := { attached := true, files := [([text "dump.sql"], [45, 45])] }
    wire :=
      { script :=
          { cursors :=
              [rowsCursor [[.text (text "a")], [.text (text "b")]],
                rowsCursor [[.nothing, .text (text "CREATE TABLE `a` (n INT)")]],
                rowsCursor [[.integer 1]],
                rowsCursor [[.nothing, .text (text "CREATE TABLE `b` (n INT)")]],
                rowsCursor [[.integer 2], [.integer (2 ^ 64)]]] } } }

/-- The failure of its second table leaves the file of an earlier export as it is. -/
theorem writeDump_all_or_nothing_overflowing :
    let clock : Clock := { moment := { year := 2024, month := 2, day := 29 }, offset := none }
    let ran := overflowingSession.perform .suspended {}
      (.writeDump {} { options := {}, clock } (text "shop") (text "dump.sql"))
    ran.1.mapError Failure.message = .error (Literal.integerOutOfRangeMessage (2 ^ 64)) ∧
      ran.2.context.files = [([text "dump.sql"], [45, 45])] := by
  intro clock ran
  have outcome := writeDump_all_or_nothing overflowingSession .suspended {} {}
    { options := {}, clock } (text "shop") (text "dump.sql")
  have worded : (Blocking.dumpChunks {} {} { options := {}, clock } (text "shop")
      (overflowingSession.noted .dump .info
        (Notice.exporting (text "shop") (text "dump.sql")))).1.mapError Failure.message =
      .error (Literal.integerOutOfRangeMessage (2 ^ 64)) := by
    decide +kernel
  rcases made_or_fails { options := {}, clock }
      (overflowingSession.noted .dump .info (Notice.exporting (text "shop") (text "dump.sql")))
    with ⟨sections, after, made⟩ | ⟨failure, fails⟩
  · rw [made.run_eq] at worded
    cases worded
  · obtain ⟨raised, kept⟩ := outcome.1 failure fails
    obtain ⟨after, failed⟩ := fails.run_eq
    rw [failed] at worded
    have said : failure.message = Literal.integerOutOfRangeMessage (2 ^ 64) :=
      Except.error.inj worded
    exact ⟨said ▸ congrArg (Except.mapError Failure.message) raised, kept⟩

end Session

end SqlDump
