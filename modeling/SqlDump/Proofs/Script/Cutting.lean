import SqlDump.Proofs.Script.Pieces

/-!
# Cutting a script in parts

A script that is outside comments and quoted runs in front of a delimiter can be
cut there into two scripts. A section that emits statements does so whatever
stands behind it, so the statements of sections in a row are those of the
sections in a row.

Main statements: `statements_append_delimiter` cuts a script at a delimiter, and
`split_delimiter` says that the splitter begins anew there; `statements_append_whole` adds a
whole fragment to what is pending, and `Emits.append` puts sections together.
-/

namespace SqlDump.Script

/-! ## Statements of scripts -/

theorem isSecond_delimiter : isSecond (.char ';') = false := by decide

theorem scan_delimiter (rest : Text) :
    scan .start (.char ';' :: rest) = (scan .start rest).behind [.delimiter] := by
  rw [scan_step]
  rfl

/-- A script is cut into two at a delimiter outside comments and quoted runs. -/
theorem statements_append_delimiter {left : Text} (right : Text)
    (normal : (scan .start left).final.mode = .normal) :
    statements (left ++ .char ';' :: right) = statements left ++ statements right := by
  have apart : StartsApart (.char ';' :: right) := by simp [isSecond_delimiter]
  rw [statements_eq, statements_eq left, statements_eq right, scan_append .start left apart,
    final_eq_start normal, scan_delimiter]
  simp only [Scan.behind_marks, List.cons_append, List.nil_append, pieces_append_delimiter,
    statementsOf_append]

/-- A splitter behind a delimiter outside comments and quoted runs is where it was at the
beginning of the script, but for the statements that it has made. -/
theorem feed_delimiter {left : Text} (normal : (scan .start left).final.mode = .normal) :
    Splitter.fresh.feed (left ++ [.char ';']) =
      { Splitter.fresh with newestStatements := (statements left).reverse } := by
  have apart : StartsApart [.char ';'] := startsApart_cons.mpr isSecond_delimiter
  have scanned : scan .start (left ++ [.char ';']) =
      { marks := (scan .start left).marks ++ [.delimiter], final := .start } := by
    rw [scan_append .start left apart, final_eq_start normal]
    rfl
  have found : pieces ((scan .start left).marks ++ [.delimiter]) =
      pieces (scan .start left).marks ++ [[]] := pieces_append_delimiter _ []
  obtain ⟨state, buffer, emitted⟩ := feed_fresh (left ++ [.char ';'])
  rw [scanned] at state
  rw [pending, scanned, found, List.getLast?_concat, Option.getD_some] at buffer
  rw [finished, scanned, found, List.dropLast_concat, ← statements_eq] at emitted
  cases made : Splitter.fresh.feed (left ++ [.char ';']) with
  | mk state' newestKept newestStatements =>
      rw [made] at state buffer emitted
      simp only [Splitter.buffer, List.reverse_eq_nil_iff] at buffer
      rw [← emitted, Splitter.emitted, List.reverse_reverse]
      simp only at state
      rw [state, buffer]
      rfl

/-- Splitting is compositional at delimiters: where a splitter ends a text outside comments and
quoted runs, a delimiter puts it back to the beginning, and the statements of what stands on
the two sides of the delimiter are found apart from each other. -/
theorem split_delimiter {left : Text} (normal : (Splitter.fresh.feed left).state.mode = .normal)
    (right : Text) :
    Splitter.fresh.feed (left ++ [.char ';']) =
        { Splitter.fresh with newestStatements := (statements left).reverse } ∧
      statements (left ++ .char ';' :: right) = statements left ++ statements right := by
  have normalScan : (scan .start left).final.mode = .normal := by
    rwa [(feed_fresh left).1] at normal
  exact ⟨feed_delimiter normalScan, statements_append_delimiter right normalScan⟩

/-- A dash, a delimiter and a dash begin no comment. -/
theorem split_delimiter_dashes :
    (Splitter.fresh.feed (text "SELECT 'it''s; here' -")).state.mode = .normal ∧
      Splitter.fresh.feed (text "SELECT 'it''s; here' -" ++ [.char ';']) =
          { Splitter.fresh with
            newestStatements := (statements (text "SELECT 'it''s; here' -")).reverse } ∧
        statements (text "SELECT 'it''s; here' -" ++ .char ';' :: text "- 1; SELECT 2") =
          statements (text "SELECT 'it''s; here' -") ++ statements (text "- 1; SELECT 2") := by
  have normal : (Splitter.fresh.feed (text "SELECT 'it''s; here' -")).state.mode = .normal := by
    decide
  exact ⟨normal, split_delimiter normal (text "- 1; SELECT 2")⟩

/-- A whole fragment is added to what is pending. -/
theorem statements_append_whole {before fragment : Text}
    (normal : (scan .start before).final.mode = .normal) (apart : StartsApart fragment)
    (whole : Whole fragment) :
    statements (before ++ fragment) =
      finished before ++ statementsOf [pending before ++ fragment] := by
  have alone : scan .start fragment = (scan .start []).behind (kept fragment) := by
    simpa using whole [] startsApart_nil
  rw [statements_eq, scan_append .start before apart, final_eq_start normal, alone]
  simp [pieces_append_kept, finished, pending]

theorem final_append_whole {before fragment : Text}
    (normal : (scan .start before).final.mode = .normal) (apart : StartsApart fragment)
    (whole : Whole fragment) : (scan .start (before ++ fragment)).final.mode = .normal := by
  have alone : scan .start fragment = (scan .start []).behind (kept fragment) := by
    simpa using whole [] startsApart_nil
  rw [scan_append .start before apart, final_eq_start normal, alone]
  rfl

/-! ## Sections -/

/-- Whether a section of a script stands for certain statements, whatever follows. -/
def Emits (part : Text) (emitted : List Text) : Prop :=
  ∀ rest, statements (part ++ rest) = emitted ++ statements rest

@[simp] theorem emits_nil : Emits [] [] := fun _ => rfl

theorem Emits.append {left right : Text} {leftEmitted rightEmitted : List Text}
    (leftEmits : Emits left leftEmitted) (rightEmits : Emits right rightEmitted) :
    Emits (left ++ right) (leftEmitted ++ rightEmitted) := by
  intro rest
  rw [List.append_assoc, leftEmits, rightEmits, List.append_assoc]

theorem emits_flatMap {α : Type} {items : List α} {part : α → Text} {emitted : α → List Text}
    (each : ∀ item ∈ items, Emits (part item) (emitted item)) :
    Emits (items.flatMap part) (items.flatMap emitted) := by
  induction items with
  | nil => simp
  | cons item rest hypothesis =>
      rw [List.flatMap_cons, List.flatMap_cons]
      exact (each item (by simp)).append
        (hypothesis fun other member => each other (by simp [member]))

theorem Emits.statements_eq {part : Text} {emitted : List Text} (emits : Emits part emitted) :
    statements part = emitted := by
  simpa using emits []

/-- A section of which the scanner keeps blanks only emits nothing. -/
theorem emits_of_blank {part blanks : Text}
    (scanned : ∀ rest, scan .start (part ++ rest) = (scan .start rest).behind (kept blanks))
    (blank : ∀ symbol ∈ blanks, symbol.isBlank = true) : Emits part [] := by
  intro rest
  rw [statements_eq, statements_eq rest, scanned rest]
  simp only [Scan.behind_marks, pieces_kept_append, statementsOf_modifyHead blank, List.nil_append]

theorem emits_newlines (count : Nat) : Emits (List.replicate count (.char '\n')) [] := by
  have newline : isPlain (.char '\n') = true := by decide
  refine emits_of_blank (scan_plain ?_) ?_
  · simp [newline]
  · intro symbol member
    rw [List.eq_of_mem_replicate member]
    decide

/-- Whether a text is one statement as it stands, and leaves the scanner outside
comments and quoted runs. -/
structure StandsAlone (statement : Text) : Prop where
  normal : (scan .start statement).final.mode = .normal
  alone : statements statement = [statement]

/-- A statement that stands alone is emitted in front of its delimiter. -/
theorem StandsAlone.emits {statement : Text} (standsAlone : StandsAlone statement) :
    Emits (statement ++ [.char ';']) [statement] := by
  intro rest
  rw [List.append_assoc, List.singleton_append,
    statements_append_delimiter rest standsAlone.normal, standsAlone.alone]

/-- On a line of its own it is emitted with its delimiter at the end. -/
theorem StandsAlone.emits_line {statement : Text} (standsAlone : StandsAlone statement) :
    Emits (statement ++ text ";\n") [statement] := by
  have emits := standsAlone.emits.append (emits_newlines 1)
  simpa [text] using emits

/-- A text that the scanner keeps, without blanks at its ends, stands alone. -/
theorem standsAlone_of_scan {content : Text}
    (scanned : scan .start content = { marks := kept content, final := .start })
    (nonempty : content ≠ []) (trimmed : Text.strip content = content) : StandsAlone content where
  normal := by rw [scanned]; rfl
  alone := by
    have visible : Text.strip content ≠ [] := by rwa [trimmed]
    rw [statements_eq, scanned, pieces_kept, statementsOf_singleton visible, trimmed]

theorem Whole.standsAlone {fragment : Text} (whole : Whole fragment) (nonempty : fragment ≠ [])
    (trimmed : Text.strip fragment = fragment) : StandsAlone fragment := by
  have scanned := whole [] startsApart_nil
  rw [List.append_nil] at scanned
  refine standsAlone_of_scan ?_ nonempty trimmed
  rw [scanned]
  simp [Scan.behind]

end SqlDump.Script
