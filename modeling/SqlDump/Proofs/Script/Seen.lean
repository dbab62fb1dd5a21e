import SqlDump.Proofs.Script.Cutting

/-!
# What is to be seen of a script

A splitter takes blanks and line comments away from a script, and nothing else that could
be seen. So the statements of a script tell how much of it the scanner has kept: a text
that is its own statement has lost nothing to a line comment, and a part without
statements has opened no block comment and no quoted run.

Main statements: `normal_of_statements_terminator`, `emits_line_of_statements_eq_nil` and
`le_shown_of_isLasting`.
-/

namespace SqlDump.Script

/-! ## What is to be seen -/

/-- How much a text read from a state has to be seen outside its line comments. -/
def shown (state : State) (content : Text) : Nat :=
  (Text.visible (keptOf (scan state content).marks)).length

theorem shown_cons (state : State) (symbol : Symbol) (rest : Text) :
    shown state (symbol :: rest) =
      (Text.visible (keptOf (state.advance symbol rest.head?).1.toList)).length +
        shown (state.advance symbol rest.head?).2 rest := by
  simp [shown, scan_step]

theorem shown_append (state : State) (left : Text) {right : Text} (apart : StartsApart right) :
    shown state (left ++ right) = shown state left + shown (scan state left).final right := by
  simp [shown, scan_append state left apart]

/-- What is kept of a symbol is nothing or the symbol. -/
theorem keptOf_advance_sublist (state : State) (symbol : Symbol) (next : Option Symbol) :
    (keptOf (state.advance symbol next).1.toList).Sublist [symbol] := by
  obtain ⟨mark, after, advance, step⟩ := exists_step state symbol next
  rw [advance]
  cases step with
  | beginLine => exact List.nil_sublist _
  | inLine => exact List.nil_sublist _
  | delimiter => exact List.nil_sublist _
  | _ => exact List.Sublist.refl _

theorem shown_le (state : State) (content : Text) :
    shown state content ≤ (Text.visible content).length := by
  induction content generalizing state with
  | nil => rfl
  | cons symbol rest hypothesis =>
      have first : (Text.visible (keptOf (state.advance symbol rest.head?).1.toList)).length ≤
          (Text.visible [symbol]).length :=
        ((keptOf_advance_sublist state symbol rest.head?).filter _).length_le
      rw [shown_cons, Text.length_visible_cons]
      exact Nat.add_le_add first (hypothesis _)

/-- The symbol that begins a line comment could be seen, and is not kept. -/
theorem advance_of_lineComment {state : State} {symbol : Symbol} {next : Option Symbol}
    (outside : state.mode ≠ .lineComment)
    (entered : (state.advance symbol next).2.mode = .lineComment) :
    symbol.isBlank = false ∧ (state.advance symbol next).1 = none := by
  obtain ⟨mark, after, advance, step⟩ := exists_step state symbol next
  rw [advance] at entered ⊢
  cases step with
  | beginLine begins =>
      refine ⟨?_, rfl⟩
      rcases begins with ⟨rfl, -⟩ | rfl
      · decide
      · decide
  | verbatim => exact absurd entered outside
  | inLine => exact absurd rfl outside
  | _ => cases entered

/-- A text that ends in a line comment does not show all that it has. -/
theorem shown_lt_of_lineComment {state : State} {content : Text}
    (outside : state.mode ≠ .lineComment)
    (comment : (scan state content).final.mode = .lineComment) :
    shown state content < (Text.visible content).length := by
  induction content generalizing state with
  | nil => exact absurd comment outside
  | cons symbol rest hypothesis =>
      rw [scan_step, Scan.behind_final] at comment
      rw [shown_cons, Text.length_visible_cons]
      by_cases entered : (state.advance symbol rest.head?).2.mode = .lineComment
      · obtain ⟨visible, dropped⟩ := advance_of_lineComment outside entered
        have one : (Text.visible [symbol]).length = 1 := by simp [Text.visible, visible]
        have nothing : (Text.visible (keptOf Option.none.toList)).length = 0 := rfl
        have others := shown_le (state.advance symbol rest.head?).2 rest
        rw [dropped]
        omega
      · have first : (Text.visible (keptOf (state.advance symbol rest.head?).1.toList)).length ≤
            (Text.visible [symbol]).length :=
          ((keptOf_advance_sublist state symbol rest.head?).filter _).length_le
        exact Nat.add_lt_add_of_le_of_lt first (hypothesis entered comment)

/-! ## Texts without line comments -/

/-- Whether a symbol begins no line comment. -/
def isLasting (symbol : Symbol) : Bool :=
  symbol ≠ .char '-' && symbol ≠ .char '#'

/-- Outside line comments a symbol that begins none is kept, unless it is a delimiter. -/
theorem advance_of_isLasting {state : State} {symbol : Symbol} (lasting : isLasting symbol = true)
    (outside : state.mode ≠ .lineComment) (next : Option Symbol) :
    (state.advance symbol next).2.mode ≠ .lineComment ∧
      ((state.advance symbol next).1 = some (.kept symbol) ∨ symbol = .char ';') := by
  simp only [isLasting, Bool.and_eq_true, decide_eq_true_eq] at lasting
  obtain ⟨notDash, notHash⟩ := lasting
  obtain ⟨mark, after, advance, step⟩ := exists_step state symbol next
  rw [advance]
  cases step with
  | beginLine begins =>
      rcases begins with ⟨dash, -⟩ | hash
      · exact absurd dash notDash
      · exact absurd hash notHash
  | endLine => exact absurd rfl outside
  | inLine => exact absurd rfl outside
  | delimiter => exact ⟨by decide, .inr rfl⟩
  | verbatim => exact ⟨outside, .inl rfl⟩
  | _ => exact ⟨nofun, .inl rfl⟩

/-- A text without line comments has all of its symbols to be seen but its delimiters,
whatever is open in front of it. -/
theorem le_shown_of_isLasting {content : Text} (lasting : content.all isLasting = true)
    {state : State} (outside : state.mode ≠ .lineComment) :
    (Text.visible (content.filter (· ≠ .char ';'))).length ≤ shown state content := by
  induction content generalizing state with
  | nil => exact Nat.zero_le _
  | cons symbol rest hypothesis =>
      simp only [List.all_cons, Bool.and_eq_true] at lasting
      obtain ⟨stays, mark⟩ := advance_of_isLasting lasting.1 outside rest.head?
      have others := hypothesis lasting.2 stays
      rw [shown_cons]
      rcases mark with kept | delimiter
      · have atMost : (Text.visible ((symbol :: rest).filter (· ≠ .char ';'))).length ≤
            (Text.visible [symbol]).length +
              (Text.visible (rest.filter (· ≠ .char ';'))).length := by
          rw [List.filter_cons]
          split
          · rw [← List.singleton_append, Text.visible_append, List.length_append]
          · exact Nat.le_add_left _ _
        rw [kept]
        exact atMost.trans (Nat.add_le_add_left others _)
      · subst delimiter
        rw [List.filter_cons_of_neg (by decide)]
        exact others.trans (Nat.le_add_left _ _)

/-! ## Terminators -/

/-- Inside comments and quoted runs a terminator is kept, or its newline ends a line
comment. -/
theorem marks_terminator {state : State} (inside : state.mode ≠ .normal) :
    (scan state (text ";\n")).marks = kept (text ";\n") ∨
      state.mode = .lineComment ∧ (scan state (text ";\n")).marks = kept (text "\n") := by
  obtain ⟨mode, verbatim⟩ := state
  cases mode with
  | normal => exact absurd rfl inside
  | lineComment =>
      cases verbatim with
      | true => exact .inl rfl
      | false => exact .inr ⟨rfl, rfl⟩
  | blockComment => cases verbatim <;> exact .inl rfl
  | quoted quote => cases verbatim <;> cases quote <;> exact .inl rfl

/-- What is to be seen of a statement comes from it and from its terminator. -/
theorem visible_of_statements_terminator {content : Text}
    (line : statements (content ++ text ";\n") = [content]) :
    Text.visible content =
      Text.visible (keptOf (scan .start content).marks) ++
        Text.visible (keptOf (scan (scan .start content).final (text ";\n")).marks) := by
  have apart : StartsApart (text ";\n") := startsApart_cons.mpr isSecond_delimiter
  have seen := visible_statements (content ++ text ";\n")
  rw [line, scan_append .start content apart] at seen
  simpa using seen

/-- A text that is its own statement in front of a terminator ends outside comments and
quoted runs, unless it ends with a blank or a delimiter. -/
theorem normal_of_statements_terminator {content : Text} {last : Symbol}
    (ends : content.getLast? = some last) (visible : last.isBlank = false)
    (notDelimiter : last ≠ .char ';')
    (alone : statements (content ++ text ";\n") = [content]) :
    (scan .start content).final.mode = .normal := by
  by_contra inside
  have same := visible_of_statements_terminator alone
  rcases marks_terminator inside with bothKept | ⟨comment, newlineKept⟩
  · -- What is to be seen of the statement ends with the delimiter.
    obtain ⟨front, rfl⟩ := List.getLast?_eq_some_iff.mp ends
    have delimiter : Text.visible (text ";\n") = [.char ';'] := by decide
    have lastVisible : Text.visible [last] = [last] := by simp [Text.visible, visible]
    rw [bothKept, keptOf_kept, delimiter, Text.visible_append, lastVisible] at same
    exact notDelimiter (List.singleton_inj.mp (List.append_inj_right' same rfl))
  · -- The comment takes away what was to be seen.
    have newline : Text.visible (text "\n") = [] := by decide
    rw [newlineKept, keptOf_kept, newline, List.append_nil] at same
    have fewer := shown_lt_of_lineComment (by simp [State.start]) comment
    rw [shown, ← same] at fewer
    exact absurd fewer (Nat.lt_irrefl _)

/-! ## Lines without statements -/

/-- Whether the scanner is outside block comments and quoted runs, with no symbol to keep. -/
def State.isOpen (state : State) : Prop :=
  state = .start ∨ state = { mode := .lineComment }

/-- What begins a block comment or a quoted run is to be seen. -/
theorem isOpen_advance {state : State} (isOpen : state.isOpen) {symbol : Symbol}
    {next : Option Symbol}
    (blank : ∀ found, (state.advance symbol next).1 = some (.kept found) → found.isBlank = true) :
    (state.advance symbol next).2.isOpen := by
  obtain ⟨mark, after, advance, step⟩ := exists_step state symbol next
  rw [advance] at blank ⊢
  cases step with
  | beginLine => exact .inr rfl
  | inLine => exact .inr rfl
  | delimiter => exact .inl rfl
  | plain => exact .inl rfl
  | endLine => exact .inl rfl
  | closeQuote => exact .inl rfl
  | beginBlock => exact absurd (blank _ rfl) (by decide)
  | openQuote quote =>
      have visible : quote.symbol.isBlank = false := by cases quote <;> decide
      exact absurd (blank _ rfl) (by simp [visible])
  | _ => rcases isOpen with same | same <;> cases same

/-- A text with nothing to see outside its line comments ends outside block comments and
quoted runs. -/
theorem isOpen_final {state : State} (isOpen : state.isOpen) {content : Text}
    (blank : ∀ symbol, .kept symbol ∈ (scan state content).marks → symbol.isBlank = true) :
    (scan state content).final.isOpen := by
  induction content generalizing state with
  | nil => exact isOpen
  | cons symbol rest hypothesis =>
      rw [scan_step] at blank ⊢
      have first : ∀ found, (state.advance symbol rest.head?).1 = some (.kept found) →
          found.isBlank = true := by
        intro found mark
        apply blank
        simp [mark]
      have others : ∀ found, .kept found ∈
          (scan (state.advance symbol rest.head?).2 rest).marks → found.isBlank = true := by
        intro found member
        apply blank
        simp [member]
      exact hypothesis (isOpen_advance isOpen first) others

theorem State.isOpen.scan_newline {state : State} (isOpen : state.isOpen) (rest : Text) :
    scan state (.char '\n' :: rest) = (scan .start rest).behind [.kept (.char '\n')] := by
  rcases isOpen with rfl | rfl
  · rw [scan_step]
    rfl
  · rw [scan_step]
    rfl

/-- A line without statements is none of what follows it. -/
theorem emits_line_of_statements_eq_nil {line : Text} (none : statements line = []) :
    Emits (line ++ [.char '\n']) [] := by
  have blank := statements_eq_nil_iff.mp none
  intro rest
  have apart : StartsApart (.char '\n' :: rest) := startsApart_cons.mpr (by decide)
  have newline : Symbol.isBlank (.char '\n') = true := by decide
  have isOpen := isOpen_final (.inl rfl) blank
  rw [List.append_assoc, List.singleton_append, statements_eq, statements_eq rest,
    scan_append .start line apart, isOpen.scan_newline, Scan.behind_marks, Scan.behind_marks,
    statementsOf_blank_append blank]
  exact statementsOf_blank_append (by simpa using newline) _

end SqlDump.Script
