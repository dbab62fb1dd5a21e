import SqlDump.Proofs.Script.Pieces
import SqlDump.Proofs.Text.Readback
import SqlDump.Server.Request
import SqlDump.Storage.Files

/-!
# From a file to the server

The octets of a script are read as a text, the statements are cut from the text, and each
is sent as octets again. Cutting brings no surrogates together: a line comment that is
taken away leaves its newline or the end of the script behind, and everything else that is
taken away stands at the ends of a statement. So a statement is what its own octets are
read as.

Main statements: `readsBack_statements` for the statements of a text, and
`readScript_octets` for those of a file.
-/

namespace SqlDump

open Utf8

namespace Script

/-! ## First pieces -/

/-- A line comment leaves no surrogate in front of its newline. -/
theorem takeWhile_firstPiece_lineComment (content : Text) :
    (firstPiece (scan { mode := .lineComment } content).marks).takeWhile Symbol.isSurrogate =
      [] := by
  induction content with
  | nil => rfl
  | cons symbol rest hypothesis =>
      rw [scan_step]
      by_cases newline : symbol = .char '\n'
      · rw [newline]
        rfl
      · simpa [State.advance, advanceLineComment, newline] using hypothesis

/-- The surrogates at the beginning of what is kept stand at the beginning of the text. -/
theorem isPrefix_takeWhile_firstPiece (state : State) (content : Text) :
    (firstPiece (scan state content).marks).takeWhile Symbol.isSurrogate <+:
      content.takeWhile Symbol.isSurrogate := by
  induction content generalizing state with
  | nil => exact List.nil_prefix
  | cons symbol rest hypothesis =>
      obtain ⟨mark, after, advance, step⟩ := exists_step state symbol rest.head?
      generalize rest.head? = next at step
      have kept :
          (firstPiece (.kept symbol :: (scan after rest).marks)).takeWhile Symbol.isSurrogate <+:
            (symbol :: rest).takeWhile Symbol.isSurrogate := by
        cases isSurrogate : symbol.isSurrogate with
        | true => simpa [firstPiece, isSurrogate] using hypothesis after
        | false => simp [firstPiece, isSurrogate]
      rw [scan_step, advance, Scan.behind_marks]
      cases step with
      | beginLine =>
          rw [Option.toList_none, List.nil_append, takeWhile_firstPiece_lineComment]
          exact List.nil_prefix
      | inLine =>
          rw [Option.toList_none, List.nil_append, takeWhile_firstPiece_lineComment]
          exact List.nil_prefix
      | delimiter => exact List.nil_prefix
      | _ => exact kept

/-! ## Statements -/

/-- A symbol is kept in front of what is kept of the rest. -/
theorem readsBack_cons_firstPiece {symbol : Symbol} {rest : Text} (state : State)
    (readsBack : ReadsBack (symbol :: rest))
    (piece : ReadsBack (firstPiece (scan state rest).marks)) :
    ReadsBack (symbol :: firstPiece (scan state rest).marks) := by
  cases symbol with
  | char value => exact readsBack_char_cons.mpr piece
  | stray offset =>
      obtain ⟨stays, -⟩ := readsBack_stray_cons.mp readsBack
      obtain ⟨others, front⟩ := isPrefix_takeWhile_firstPiece state rest
      rw [← staysStray_takeWhile, ← front] at stays
      exact readsBack_stray_cons.mpr ⟨staysStray_takeWhile.mp stays.of_append, piece⟩
  | lone surrogate => exact absurd readsBack not_readsBack_lone_cons

/-- The pieces of a text that comes back do so too. -/
theorem readsBack_of_mem_pieces {state : State} {content piece : Text}
    (readsBack : ReadsBack content) (member : piece ∈ pieces (scan state content).marks) :
    ReadsBack piece := by
  induction content generalizing state piece with
  | nil =>
      have empty : piece = [] := by simpa [pieces] using member
      exact empty ▸ readsBack_nil
  | cons symbol rest hypothesis =>
      have restReadsBack : ReadsBack rest :=
        readsBack.of_isInfix (List.suffix_cons symbol rest).isInfix
      obtain ⟨mark, after, advance, step⟩ := exists_step state symbol rest.head?
      have keptReadsBack : piece ∈ pieces (.kept symbol :: (scan after rest).marks) →
          ReadsBack piece := by
        intro member
        obtain ⟨others, same⟩ := pieces_eq_cons (scan after rest).marks
        rw [pieces_kept_cons, same, List.modifyHead_cons] at member
        rcases List.mem_cons.mp member with rfl | inOthers
        · apply readsBack_cons_firstPiece after readsBack
          exact hypothesis restReadsBack (by rw [same]; exact List.mem_cons_self)
        · exact hypothesis restReadsBack (by rw [same]; exact List.mem_cons_of_mem _ inOthers)
      rw [scan_step, advance, Scan.behind_marks] at member
      generalize rest.head? = next at step
      cases step with
      | beginLine => exact hypothesis restReadsBack member
      | inLine => exact hypothesis restReadsBack member
      | delimiter =>
          rw [Option.toList_some, List.singleton_append, pieces_delimiter_cons] at member
          rcases List.mem_cons.mp member with rfl | inRest
          · exact readsBack_nil
          · exact hypothesis restReadsBack inRest
      | _ => exact keptReadsBack member

/-- The statements of a text that comes back do so too. -/
theorem readsBack_statements {script statement : Text} (readsBack : ReadsBack script)
    (member : statement ∈ statements script) : ReadsBack statement := by
  rw [statements_eq, statementsOf] at member
  obtain ⟨piece, inPieces, rfl⟩ := List.mem_map.mp (List.mem_filter.mp member).1
  exact (readsBack_of_mem_pieces readsBack inPieces).of_isInfix (Text.isInfix_strip piece)

end Script

/-! ## Files -/

/-- A script is written as the octets of its file, and each of its statements is sent in
octets that are read as the statement. -/
theorem readScript_octets {files : Files} {path : Text} {octets : Octets}
    (read : files.read path = .ok octets) :
    ∃ script, readScript files path = .ok script ∧ Encoding.utf8.encode script = .ok octets ∧
      ∀ statement ∈ Script.statements script,
        ∃ prepared, Server.Prepared.ofText statement = .ok prepared ∧
          Utf8.decode prepared.wire = statement := by
  refine ⟨Utf8.decode octets, ?_, Encoding.encode_utf8_decode octets, fun statement member => ?_⟩
  · rw [readScript, read]
    rfl
  · have readsBack := Script.readsBack_statements (readsBack_decode octets) member
    obtain ⟨prepared, made, sent⟩ := Server.Prepared.exists_ofText readsBack.hasLone_eq_false
    exact ⟨prepared, made, sent ▸ readsBack⟩

/-- The three octets of a character, torn apart by a line comment and by a delimiter, and
the first octet of another one. -/
def tornOctets : Octets :=
  [0xE2, 0x2D, 0x2D, 0x0A, 0x82, 0x3B, 0xAC, 0x20, 0xC3]

theorem readScript_octets_torn :
    Files.read [([text "a.sql"], tornOctets)] (text "a.sql") = .ok tornOctets ∧
    ∃ script, readScript [([text "a.sql"], tornOctets)] (text "a.sql") = .ok script ∧
      Encoding.utf8.encode script = .ok tornOctets ∧
      ∀ statement ∈ Script.statements script,
        ∃ prepared, Server.Prepared.ofText statement = .ok prepared ∧
          Utf8.decode prepared.wire = statement := by
  have read : Files.read [([text "a.sql"], tornOctets)] (text "a.sql") = .ok tornOctets := by
    decide +kernel
  exact ⟨read, readScript_octets read⟩

end SqlDump
