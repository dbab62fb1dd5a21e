import Mathlib.Data.List.Flatten
import SqlDump.Proofs.Dump.Section
import SqlDump.Proofs.Script.Seen

/-!
# Names in comments

Titles and names stand in line comments as they are, and a line comment ends at the first
newline: what a name has from there on is read as a part of the script. So a name of one
line never is, and a name of several lines does no harm exactly where its other lines have no
statements.

Main statements: `statements_commentLine` for one line, and `statements_comments_iff` for the
names that do no harm.
-/

namespace SqlDump.Dump

open Script

/-! ## Contents of several lines -/

/-- What a content has from its first newline on. -/
def behindLine (content : Text) : Text :=
  content.dropWhile (· ≠ .char '\n')

theorem behindLine_append {line : Text} (oneLine : .char '\n' ∉ line) (content : Text) :
    behindLine (line ++ content) = behindLine content := by
  apply List.dropWhile_append_of_pos
  intro symbol member
  have different : symbol ≠ .char '\n' := by
    rintro rfl
    exact oneLine member
  simpa using different

theorem behindLine_eq_nil {content : Text} (oneLine : .char '\n' ∉ content) :
    behindLine content = [] := by
  simpa [behindLine] using behindLine_append oneLine []

/-- A content has one line, or is cut at its first newline. -/
theorem behindLine_cases (content : Text) :
    .char '\n' ∉ content ∨
      ∃ line part, .char '\n' ∉ line ∧ content = line ++ .char '\n' :: part := by
  by_cases oneLine : .char '\n' ∈ content
  · obtain ⟨line, part, same, notBefore⟩ := List.eq_append_cons_of_mem oneLine
    exact .inr ⟨line, part, notBefore, same⟩
  · exact .inl oneLine

/-- A comment line hides what its content has up to the first newline. -/
theorem statements_commentLine (content rest : Text) :
    statements (commentLine content ++ rest) =
      statements (behindLine content ++ .char '\n' :: rest) := by
  rcases behindLine_cases content with oneLine | ⟨line, part, oneLine, rfl⟩
  · rw [behindLine_eq_nil oneLine, emits_commentLine oneLine rest]
    exact (emits_newlines 1 rest).symm
  · have regrouped : commentLine (line ++ .char '\n' :: part) ++ rest =
        commentLine line ++ (part ++ .char '\n' :: rest) := by
      simp [commentLine]
    have cut : behindLine (line ++ .char '\n' :: part) = .char '\n' :: part := by
      rw [behindLine_append oneLine]
      simp [behindLine]
    rw [regrouped, cut, emits_commentLine oneLine]
    exact (emits_newlines 1 (part ++ .char '\n' :: rest)).symm

theorem emits_commentLine_of_statements_eq_nil {content : Text}
    (none : statements (behindLine content) = []) : Emits (commentLine content) [] := by
  intro rest
  rw [statements_commentLine]
  simpa using emits_line_of_statements_eq_nil none rest

/-- The part in front of a newline has no statements where the whole has none. -/
theorem statements_eq_nil_of_append {part rest : Text}
    (none : statements (part ++ .char '\n' :: rest) = []) : statements part = [] := by
  have apart : StartsApart (.char '\n' :: rest) := startsApart_cons.mpr (by decide)
  rw [statements_eq_nil_iff, scan_append .start part apart] at none
  rw [statements_eq_nil_iff]
  intro symbol member
  exact none symbol (List.mem_append_left _ member)

/-! ## The opening statements -/

/-- The opening statements have no delimiters of their own, and begin no line comments. -/
theorem isLasting_of_mem_prologue {statement : Text} (listed : statement ∈ prologue) :
    (statement.all fun symbol => isLasting symbol && symbol ≠ .char ';') = true := by
  revert statement
  decide +kernel

theorem all_isLasting_prologueText : prologueText.all isLasting = true := by
  have ending : ∀ symbol ∈ text ";\n" ++ text "\n", isLasting symbol = true := by decide
  rw [List.all_eq_true]
  intro symbol member
  obtain ⟨group, listed, written⟩ := List.mem_flatMap.mp member
  rcases List.mem_append.mp written with inLines | newline
  · obtain ⟨statement, inGroup, inLine⟩ := List.mem_flatMap.mp inLines
    rcases List.mem_append.mp inLine with inStatement | terminator
    · have all := isLasting_of_mem_prologue (List.mem_flatten.mpr ⟨group, listed, inGroup⟩)
      have both := List.all_eq_true.mp all symbol inStatement
      exact (Bool.and_eq_true_iff.mp both).1
    · exact ending symbol (List.mem_append_left _ terminator)
  · exact ending symbol (List.mem_append_right _ newline)

theorem flatten_sublist_lines (statements : List Text) :
    statements.flatten.Sublist (lines statements) := by
  rw [← List.flatMap_id]
  apply List.Sublist.flatMap_right
  intro statement _
  exact List.sublist_append_left statement _

theorem flatten_prologue_sublist : prologue.flatten.Sublist prologueText := by
  rw [prologue, List.flatten_flatten, ← List.flatMap_def]
  apply List.Sublist.flatMap_right
  intro group _
  exact (flatten_sublist_lines group).trans (List.sublist_append_left ..)

/-- Behind two newlines the text of the opening statements has all of them to be seen, whatever
is open in front of it. -/
theorem le_shown_prologueText (state : State) :
    (Text.visible prologue.flatten).length ≤ shown state (text "\n\n" ++ prologueText) := by
  have noDelimiter : prologue.flatten.filter (· ≠ .char ';') = prologue.flatten := by
    rw [List.filter_eq_self]
    intro symbol member
    obtain ⟨statement, listed, inStatement⟩ := List.mem_flatten.mp member
    have both := List.all_eq_true.mp (isLasting_of_mem_prologue listed) symbol inStatement
    exact (Bool.and_eq_true_iff.mp both).2
  have outside : (scan state (text "\n\n")).final.mode ≠ .lineComment := by
    obtain ⟨mode, verbatim⟩ := state
    cases mode with
    | quoted quote => cases quote <;> cases verbatim <;> decide
    | _ => cases verbatim <;> decide
  have apart : StartsApart prologueText := startsApart_cons.mpr (by decide)
  calc
    (Text.visible prologue.flatten).length
      ≤ (Text.visible (prologueText.filter (· ≠ .char ';'))).length := by
        rw [← noDelimiter]
        exact ((flatten_prologue_sublist.filter _).filter _).length_le
    _ ≤ shown (scan state (text "\n\n")).final prologueText :=
        le_shown_of_isLasting all_isLasting_prologueText outside
    _ ≤ shown state (text "\n\n" ++ prologueText) := by
        rw [shown_append state _ apart]
        exact Nat.le_add_left _ _

/-- Where a script has the opening statements at its end and no others, what is in front of them
has no statements. -/
theorem statements_eq_nil_of_prologue {part between : Text}
    (only : statements (part ++ .char '\n' :: (between ++ (text "\n\n" ++ prologueText))) =
      prologue) :
    statements part = [] := by
  have apart : StartsApart (.char '\n' :: (between ++ (text "\n\n" ++ prologueText))) :=
    startsApart_cons.mpr (by decide)
  have newlines : StartsApart (text "\n\n" ++ prologueText) := startsApart_cons.mpr (by decide)
  have all : (Text.visible prologue.flatten).length =
      shown .start (part ++ .char '\n' :: (between ++ (text "\n\n" ++ prologueText))) := by
    rw [← only, visible_statements, shown]
  rw [shown_append .start part apart, ← List.cons_append, shown_append _ _ newlines] at all
  have enough := le_shown_prologueText
    (scan (scan .start part).final (.char '\n' :: between)).final
  have nothing : shown .start part = 0 := by omega
  rw [statements_eq_nil_iff]
  intro symbol member
  exact Text.visible_eq_nil_iff.mp (List.length_eq_zero_iff.mp nothing) symbol
    (mem_keptOf.mpr member)

/-! ## Headers -/

namespace Formatter

variable (options : DumpOptions) (clock : Clock)

theorem behindLine_titleLine : behindLine (text " " ++ options.headerTitle) =
    behindLine options.headerTitle :=
  behindLine_append (by decide) _

theorem behindLine_nameLine (database : Text) :
    behindLine (text " Database: " ++ database) = behindLine database :=
  behindLine_append (by decide) _

/-- A header has the opening statements only, exactly where neither its title nor the name
of the database has statements behind its first line. -/
theorem statements_header_iff (database : Text) :
    statements (Formatter.header { options, clock } database) = prologue ↔
      statements (behindLine options.headerTitle) = [] ∧ statements (behindLine database) = [] := by
  have regrouped : Formatter.header { options, clock } database =
      commentLine (text " " ++ options.headerTitle) ++
        (commentLine (text " Database: " ++ database) ++ (text "-- Date: " ++ clock.stamp) ++
          (text "\n\n" ++ prologueText)) := by
    simp [header, commentLine, text]
  constructor
  · intro only
    have title : statements (behindLine options.headerTitle) = [] := by
      rw [regrouped, statements_commentLine, behindLine_titleLine] at only
      exact statements_eq_nil_of_prologue only
    have titleLine : Emits (commentLine (text " " ++ options.headerTitle)) [] :=
      emits_commentLine_of_statements_eq_nil (by rwa [behindLine_titleLine])
    rw [regrouped, titleLine, List.nil_append, List.append_assoc, statements_commentLine,
      behindLine_nameLine] at only
    exact ⟨title, statements_eq_nil_of_prologue only⟩
  · rintro ⟨title, name⟩
    rw [← behindLine_titleLine] at title
    rw [← behindLine_nameLine] at name
    exact (emits_header_of_lines options clock (emits_commentLine_of_statements_eq_nil title)
      (emits_commentLine_of_statements_eq_nil name)).statements_eq

/-- A database whose name removes a table. -/
theorem statements_header_removal :
    statements (Formatter.header
      { options := {}
        clock := { moment := { year := 2024, month := 2, day := 29 }, offset := some 3600 } }
      (text "shop\nDROP TABLE t;")) ≠ prologue := by
  intro only
  have harmless := ((statements_header_iff _ _ _).mp only).2
  revert harmless
  decide +kernel

/-! ## Comments of tables -/

/-- The comment of a table hides what its quoted name has up to the first newline. -/
theorem statements_comment {what : String} (oneWord : .char '\n' ∉ text what) (table rest : Text) :
    statements (comment what table ++ rest) =
      statements (behindLine (Statement.identifier table) ++
        .char '\n' :: (commentLine [] ++ (.char '\n' :: rest))) := by
  have regrouped : comment what table ++ rest = commentLine [] ++
      (commentLine (text " " ++ text what ++ text " " ++ Statement.identifier table) ++
        (commentLine [] ++ (.char '\n' :: rest))) := by
    simp [comment, commentLine, text]
  have front : .char '\n' ∉ text " " ++ text what ++ text " " := by
    have space : .char '\n' ∉ text " " := by decide
    simp only [List.mem_append, space, oneWord, or_self, not_false_eq_true]
  rw [regrouped, emits_commentLine (by simp), List.nil_append, statements_commentLine,
    behindLine_append front]

theorem emits_comment_iff {what : String} (oneWord : .char '\n' ∉ text what) (table : Text) :
    Emits (comment what table) [] ↔
      statements (behindLine (Statement.identifier table)) = [] := by
  constructor
  · intro emits
    have none := emits.statements_eq
    rw [← List.append_nil (comment what table), statements_comment oneWord] at none
    exact statements_eq_nil_of_append none
  · intro none rest
    have emptyLine : Emits (commentLine []) [] := emits_commentLine (by simp)
    have emits := (emits_line_of_statements_eq_nil none).append
      (emptyLine.append (emits_newlines 1))
    rw [statements_comment oneWord]
    simpa using emits rest

/-- The names that do no harm: a header has the opening statements only, exactly where
neither its title nor the name of the database has statements behind its first line, and
the comment of a table adds none, exactly where its quoted name has none there. -/
theorem statements_comments_iff (database table : Text) :
    (statements (Formatter.header { options, clock } database) = prologue ↔
      statements (behindLine options.headerTitle) = [] ∧
        statements (behindLine database) = []) ∧
    ∀ what ∈ ["Structure for table", "Dumping data for table"],
      (∀ rest, statements (comment what table ++ rest) = statements rest) ↔
        statements (behindLine (Statement.identifier table)) = [] := by
  refine ⟨statements_header_iff options clock database, ?_⟩
  intro what listed
  have oneWord : .char '\n' ∉ text what := by
    revert what
    decide
  exact emits_comment_iff oneWord table

end Formatter

end SqlDump.Dump
