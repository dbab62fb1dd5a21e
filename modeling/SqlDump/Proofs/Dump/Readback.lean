import SqlDump.Proofs.Dump.Export
import SqlDump.Proofs.Dump.Inventory
import SqlDump.Proofs.Text.Readback

/-!
# Dumps that read back

A dump is put together from octets that were read one value at a time, and its file is
read as a whole. Octets that belong to no character stay apart all the same: each literal
ends with its quote, each section with its newlines, and nothing in front of a character
depends on what follows it.

Main statements: `Literal.sealed_encode` for values, `readsBack_dump` for the whole text,
and `Session.readScript_writeDump` for the file.
-/

namespace SqlDump

open Server Dump Utf8

/-! ## Texts of characters -/

@[simp] theorem Text.hasSurrogate_nil : hasSurrogate [] = false := rfl

@[simp] theorem Text.hasSurrogate_char_cons (value : Char) (rest : Text) :
    hasSurrogate (.char value :: rest) = hasSurrogate rest := rfl

@[simp] theorem Text.hasSurrogate_text (source : String) : hasSurrogate (text source) = false := by
  simp [hasSurrogate, text]

/-- Numerals consist of characters. -/
@[simp] theorem Digit.hasSurrogate_text (found : List Digit) :
    (text found).hasSurrogate = false := by
  have each : ∀ digit : Digit, digit.symbol.isSurrogate = false := by decide
  simp [Text.hasSurrogate, text, each]

@[simp] theorem Numeral.hasSurrogate_plain (number : Int) :
    (plain number).hasSurrogate = false := by
  rw [plain]
  split <;> simp

@[simp] theorem Numeral.hasSurrogate_padded (width : Nat) (number : Int) :
    (padded width number).hasSurrogate = false := by
  rw [padded]
  split <;> simp

@[simp] theorem Scientific.hasSurrogate_withSign (negative : Bool) (body : Text) :
    (withSign negative body).hasSurrogate = body.hasSurrogate := by
  cases negative <;> rfl

@[simp] theorem Binary64.hasSurrogate_positional (number : Binary64) :
    number.positional.hasSurrogate = false := by
  rw [positional, render]
  split <;> simp [Scientific.positional]

@[simp] theorem Literal.hasSurrogate_momentContent (moment : Moment) :
    (momentContent moment).hasSurrogate = false := by
  simp [momentContent]

@[simp] theorem Literal.hasSurrogate_spanContent (span : TimeSpan) :
    (spanContent span).hasSurrogate = false := by
  cases negative : span.negative <;> simp [spanContent, negative]

@[simp] theorem Clock.hasSurrogate_zone (offset : Option Int) :
    (zone offset).hasSurrogate = false := by
  cases offset with
  | none => exact Text.hasSurrogate_text _
  | some offset =>
      have seconds : Text.hasSurrogate (if (offset.natAbs : Int) % 60 = 0 then []
          else Numeral.padded 2 ((offset.natAbs : Int) % 60)) = false := by
        split <;> simp
      simp only [zone, Text.hasSurrogate_append, Text.hasSurrogate_text,
        Numeral.hasSurrogate_padded, seconds, Bool.or_self]

@[simp] theorem Clock.hasSurrogate_stamp (clock : Clock) : clock.stamp.hasSurrogate = false := by
  simp [stamp]

@[simp] theorem Statement.hasSurrogate_identifier (name : Text) :
    (identifier name).hasSurrogate = name.hasSurrogate := by
  have each (symbol : Symbol) :
      (if symbol = backtick then [backtick, backtick] else [symbol]).any Symbol.isSurrogate =
        symbol.isSurrogate := by
    split
    next same => rw [same]; rfl
    next => simp
  have content : (doubled name).hasSurrogate = name.hasSurrogate := by
    simp only [Text.hasSurrogate, doubled, List.any_flatMap, each]
  simp [identifier, backtick, content]

namespace Dump.Formatter

@[simp] theorem hasSurrogate_comment (what : String) (table : Text) :
    (comment what table).hasSurrogate = table.hasSurrogate := by
  simp [comment]

theorem hasSurrogate_header (formatter : Formatter) (database : Text) :
    (formatter.header database).hasSurrogate =
      (formatter.options.headerTitle.hasSurrogate || database.hasSurrogate) := by
  have opening : Text.hasSurrogate prologueText = false := by
    simp [prologueText, prologueGroups, lines]
  simp [header, opening]

theorem hasSurrogate_structureSection (formatter : Formatter) (table definition : Text) :
    (formatter.structureSection table definition).hasSurrogate =
      (table.hasSurrogate || definition.hasSurrogate) := by
  cases removed : formatter.options.withDrop <;>
    simp [structureSection, removed, Statement.dropTable]

theorem hasSurrogate_footer : Text.hasSurrogate footer = false := by
  simp [footer, lines, epilogue]

end Dump.Formatter

/-! ## Sealed literals -/

namespace Literal

/-- Escapes and quotes are characters, so a content that comes back does so as a literal,
and its closing quote seals it. -/
theorem sealed_quote {content : Text} (readsBack : ReadsBack content) : Sealed (quote content) := by
  have marks : ∀ entry ∈ stringEscapes, entry.2.isSurrogate = false := by decide
  have plain : ∀ symbol ∈ stringEscapes.map Prod.fst, symbol.isSurrogate = false := by decide
  have escaped : ReadsBack (escape content) := by
    rw [escape_eq_flatMap]
    refine ReadsBack.flatMap (fun symbol surrogate => ?_) (fun value => ?_) readsBack
    · exact escapeSymbol_of_not_mem fun listed => by simp [plain symbol listed] at surrogate
    · rcases escapeSymbol_cases (.char value) with ⟨mark, listed, written⟩ | ⟨-, written⟩
      · rw [written]
        simp [Text.hasSurrogate, marks _ listed]
      · rw [written]
        simp
  exact (readsBack_char_cons.mpr escaped).sealed_append '\''

/-- A literal is sealed, whatever octets its value has. -/
theorem sealed_encode {value : Value} {literal : Text} (made : encode value = .ok literal) :
    Sealed literal := by
  cases value with
  | null =>
      cases made
      exact sealed_of_hasSurrogate_eq_false (Text.hasSurrogate_text _)
  | integer wide =>
      cases made
      exact sealed_of_hasSurrogate_eq_false (Numeral.hasSurrogate_plain _)
  | float number =>
      cases made
      exact sealed_of_hasSurrogate_eq_false (Binary64.hasSurrogate_positional _)
  | double number =>
      cases made
      exact sealed_of_hasSurrogate_eq_false (Binary64.hasSurrogate_positional _)
  | bytes octets =>
      cases made
      exact sealed_quote (readsBack_decode octets)
  | dateTime moment =>
      rw [ofMoment_eq_ok made]
      exact sealed_quote (readsBack_of_hasSurrogate_eq_false (hasSurrogate_momentContent moment))
  | time span =>
      rw [ofSpan_eq_ok made]
      exact sealed_quote (readsBack_of_hasSurrogate_eq_false (hasSurrogate_spanContent span))

/-- A row is sealed by its closing parenthesis. -/
theorem sealed_encodeRow {values : List Value} {row : Text} (made : encodeRow values = .ok row) :
    Sealed row := by
  obtain ⟨literals, collected, rfl⟩ := encodeRow_eq_ok made
  have separator : Sealed valueSeparator :=
    sealed_of_hasSurrogate_eq_false (Text.hasSurrogate_text _)
  have content : Sealed (valueSeparator.intercalate literals) := by
    apply sealed_intercalate separator
    intro literal member
    obtain ⟨value, _, written⟩ := exists_of_mem_of_mapM_eq_ok collected member
    exact sealed_encode written
  exact (readsBack_char_cons.mpr content.readsBack).sealed_append ')'

end Literal

/-! ## Sealed sections -/

namespace Dump

/-- The data of a table are sealed, whatever octets the rows have. -/
theorem Formatter.sealed_dataText (formatter : Formatter) {table : Text}
    (clean : table.hasSurrogate = false) {rows : List (List Value)} {encoded : List Text}
    (collected : rows.mapM Literal.encodeRow = .ok encoded) :
    Sealed (formatter.dataText table encoded) := by
  have separator : Sealed Literal.rowSeparator :=
    sealed_of_hasSurrogate_eq_false (Text.hasSurrogate_text _)
  have terminator : Sealed Literal.rowsTerminator :=
    sealed_of_hasSurrogate_eq_false (Text.hasSurrogate_text _)
  have head : Sealed (Statement.insertHead formatter.options.insertMode table) :=
    sealed_of_hasSurrogate_eq_false (by simp [Statement.insertHead, clean])
  have values : Sealed (Literal.rowSeparator.intercalate encoded) := by
    apply sealed_intercalate separator
    intro row member
    obtain ⟨source, _, written⟩ := exists_of_mem_of_mapM_eq_ok collected member
    exact Literal.sealed_encodeRow written
  have insertions : Sealed (Statement.insertions formatter.options.insertMode table encoded) := by
    rw [Statement.insertions]
    split
    · exact sealed_nil
    · exact (head.append values).append terminator
  have comment : Sealed (Formatter.comment "Dumping data for table" table) :=
    sealed_of_hasSurrogate_eq_false (by simp [clean])
  exact comment.append insertions

end Dump

namespace TableContents

/-- Whether the name and the definition of a table consist of characters. -/
structure IsClean (contents : TableContents) : Prop where
  name : contents.name.hasSurrogate = false
  definition : ∀ definition ∈ contents.definition, Text.hasSurrogate definition = false

/-- The sections of a table are sealed, whatever octets its rows have. -/
theorem sealed_of_mem_sections {options : DumpOptions} {formatter : Formatter}
    {contents : TableContents} (clean : contents.IsClean) (written : contents.IsWritten options) :
    ∀ chunk ∈ contents.sections options formatter, Sealed chunk := by
  intro chunk member
  rw [sections, List.mem_append] at member
  rcases member with inStructure | inData
  · rw [Option.mem_toList, Option.map_eq_some_iff] at inStructure
    obtain ⟨definition, shown, rfl⟩ := inStructure
    apply sealed_of_hasSurrogate_eq_false
    rw [Formatter.hasSurrogate_structureSection, clean.name, clean.definition definition shown]
    rfl
  · split at inData
    next =>
      rw [List.mem_singleton.mp inData]
      obtain ⟨values, collected⟩ := written.encoded
      exact formatter.sealed_dataText clean.name collected
    next => cases inData

end TableContents

/-- The text of a dump comes back from the octets of its file. -/
theorem readsBack_dump {options : DumpOptions} {formatter : Formatter} {database : Text}
    (title : formatter.options.headerTitle.hasSurrogate = false)
    (named : database.hasSurrogate = false)
    {tables : List TableContents} (written : ∀ contents ∈ tables, contents.IsWritten options)
    (clean : ∀ contents ∈ tables, contents.IsClean) :
    ReadsBack (TableContents.chunks options formatter database tables).flatten := by
  have header : Sealed (formatter.header database) :=
    sealed_of_hasSurrogate_eq_false (by rw [Formatter.hasSurrogate_header, title, named]; rfl)
  have footer : Sealed Formatter.footer :=
    sealed_of_hasSurrogate_eq_false Formatter.hasSurrogate_footer
  have each : ∀ chunk ∈ TableContents.chunks options formatter database tables,
      Sealed chunk := by
    simp only [TableContents.chunks, List.cons_append, List.forall_mem_cons,
      List.forall_mem_append, List.mem_flatMap]
    refine ⟨header, ?_, footer, by simp⟩
    rintro chunk ⟨contents, member, inSections⟩
    exact TableContents.sealed_of_mem_sections (clean contents member) (written contents member)
      chunk inSections
  exact (sealed_flatten each).readsBack

namespace Session

/-- A restore of a file is one of the text that is read from it. -/
theorem perform_restoreFile_of_readScript {session : Session} {path script : Text}
    (read : readScript session.context.files path = .ok script) (waiting : Waiting)
    (settings : Settings) (database : Option Text) :
    session.perform waiting settings (.restoreFile path database) =
      (session.noted .restore .info (Notice.importing path)).perform waiting settings
        (.restore script database) := by
  have found : readScript (session.noted .restore .info (Notice.importing path)).context.files
      path = .ok script := read
  have ran : Blocking.restoreFile settings path database session =
      Blocking.restore settings script database
        (session.noted .restore .info (Notice.importing path)) := by
    rw [Blocking.restoreFile, Blocking.bind_run_of_eq_ok (Blocking.log_run_eq ..),
      Blocking.bind_run_of_eq_ok (Blocking.context_run _), found]
    rfl
  rw [perform_restoreFile, perform_restore, ran]

/-- A dump that is written into a file reads back as its text, and a restore of the file
is one of that text. -/
theorem readScript_writeDump {settings : Settings} {options : DumpOptions}
    {formatter : Formatter} {database path : Text} {session after : Session}
    {tables : List TableContents} {location : Location}
    (title : formatter.options.headerTitle.hasSurrogate = false)
    (named : database.hasSurrogate = false)
    (answered : Blocking.inventory settings options database session = (.ok tables, after))
    (clean : ∀ contents ∈ tables, contents.IsClean)
    (opened : session.context.files.target path = .ok location) (waiting : Waiting) :
    ∃ dumped,
      (session.perform waiting settings (.dump options formatter database)).1 =
        .ok (.text dumped) ∧
      let ran := session.perform waiting settings (.writeDump options formatter database path)
      ran.1 = .ok .nothing ∧ readScript ran.2.context.files path = .ok dumped ∧
        ∀ chosen, ran.2.perform waiting settings (.restoreFile path chosen) =
          (ran.2.noted .restore .info (Notice.importing path)).perform waiting settings
            (.restore dumped chosen) := by
  obtain ⟨dumpedAt, chunksMade, written⟩ := Blocking.dumpChunks_eq_ok formatter rfl answered
  have same : (session.noted .dump .info (Notice.exporting database path)).silent =
      session.silent := rfl
  obtain ⟨exportedAt, exported, -⟩ := Blocking.dumpChunks_eq_ok formatter same answered
  have readsBack := readsBack_dump title named written clean
  obtain ⟨behind, fileWritten, fileRead⟩ :=
    Export.writeDump_run_of_opened exported opened readsBack.hasLone_eq_false
  have dumped : Blocking.dump settings options formatter database session =
      (.ok (TableContents.chunks options formatter database tables).flatten, dumpedAt) := by
    rw [Blocking.dump, Blocking.bind_run_of_eq_ok chunksMade]
    rfl
  have read : readScript behind.context.files path =
      .ok (TableContents.chunks options formatter database tables).flatten := by
    rw [readScript, fileRead]
    exact congrArg Except.ok readsBack
  have performed : session.perform waiting settings
      (.writeDump options formatter database path) = (.ok .nothing, behind) := by
    rw [perform_writeDump, fileWritten]
    rfl
  refine ⟨(TableContents.chunks options formatter database tables).flatten, ?_, ?_⟩
  · rw [perform_dump, dumped]
    rfl
  · rw [performed]
    exact ⟨rfl, read,
      fun chosen => perform_restoreFile_of_readScript read waiting settings chosen⟩

/-- A server whose only table has a definition over several lines and octets that belong
to no character, which would make one if they stood together. -/
def tornSession : Session :=
  { context := { attached := true }
    wire :=
      { script :=
          { cursors :=
              [rowsCursor [[.text (text "t")]],
                rowsCursor [[.nothing, .text (text "CREATE TABLE `t` (\r\na BLOB,\rb BLOB\n)")]],
                rowsCursor [[.octets .plain [195], .octets .plain [169]]]] } } }

/-- What a dump shows of that table. -/
def tornTable : TableContents :=
  { name := text "t"
    definition := some (text "CREATE TABLE `t` (\r\na BLOB,\rb BLOB\n)")
    rows := [text "('" ++ [.stray 67] ++ text "', '" ++ [.stray 41] ++ text "')"] }

/-- The formatter of its dump. -/
def tornFormatter : Formatter :=
  { options := {}
    clock := { moment := { year := 2024, month := 2, day := 29 }, offset := some 3600 } }

/-- The two octets of that row stay apart in the file. -/
theorem readScript_writeDump_torn :
    tornFormatter.options.headerTitle.hasSurrogate = false ∧
    Text.hasSurrogate (text "shop") = false ∧
    Blocking.inventory {} {} (text "shop") tornSession =
      (.ok [tornTable], (Blocking.inventory {} {} (text "shop") tornSession).2) ∧
    (∀ contents ∈ [tornTable], contents.IsClean) ∧
    tornSession.context.files.target (text "dump.sql") = .ok [text "dump.sql"] ∧
    ∃ dumped,
      (tornSession.perform .suspended {} (.dump {} tornFormatter (text "shop"))).1 =
        .ok (.text dumped) ∧
      let ran := tornSession.perform .suspended {}
        (.writeDump {} tornFormatter (text "shop") (text "dump.sql"))
      ran.1 = .ok .nothing ∧ readScript ran.2.context.files (text "dump.sql") = .ok dumped ∧
        ∀ chosen, ran.2.perform .suspended {} (.restoreFile (text "dump.sql") chosen) =
          (ran.2.noted .restore .info (Notice.importing (text "dump.sql"))).perform .suspended {}
            (.restore dumped chosen) := by
  have title : tornFormatter.options.headerTitle.hasSurrogate = false := by decide
  have named : Text.hasSurrogate (text "shop") = false := by decide
  have answered : Blocking.inventory {} {} (text "shop") tornSession =
      (.ok [tornTable], (Blocking.inventory {} {} (text "shop") tornSession).2) :=
    Blocking.run_eq_ok_of_toOption (by decide +kernel)
  have clean : ∀ contents ∈ [tornTable], contents.IsClean := by
    intro contents member
    rw [List.mem_singleton.mp member]
    refine ⟨by decide, fun definition shown => ?_⟩
    rw [← Option.mem_some.mp shown]
    exact Text.hasSurrogate_text _
  have opened : tornSession.context.files.target (text "dump.sql") = .ok [text "dump.sql"] := by
    decide +kernel
  exact ⟨title, named, answered, clean, opened,
    readScript_writeDump title named answered clean opened .suspended⟩

end Session

end SqlDump
