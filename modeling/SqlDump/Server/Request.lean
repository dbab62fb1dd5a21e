import SqlDump.Server.Fault
import SqlDump.Server.Result
import SqlDump.Settings
import SqlDump.Text.Encoding

/-!
# Requests to the server

The calls of the client library that the program makes, and what each is answered
with. A statement goes to the server as text, and as octets where the text has
stray ones. A statement with a lone surrogate cannot be sent.
-/

namespace SqlDump.Server

/-- A statement in the form in which it is sent. -/
inductive Prepared where
  | text (content : Text)
  | octets (content : Octets)
  deriving DecidableEq, Repr

/-- The form in which a statement is sent. -/
def Prepared.ofText (statement : Text) : Except Encoding.Unwritable Prepared :=
  if statement.hasSurrogate then (Encoding.utf8.encode statement).map .octets
  else .ok (.text statement)

/-- The octets that are sent. -/
def Prepared.wire : Prepared → Octets
  | .text content => Utf8.encode content
  | .octets content => content

/-- A statement without lone surrogates can be sent, and in whatever form it is sent its
octets are those of its text. -/
theorem Prepared.exists_ofText {statement : Text} (clean : statement.hasLone = false) :
    ∃ prepared, ofText statement = .ok prepared ∧ prepared.wire = Utf8.encode statement := by
  rw [ofText]
  split
  next =>
    rw [Encoding.encode_utf8_of_hasLone_eq_false clean]
    exact ⟨_, rfl, rfl⟩
  next => exact ⟨_, rfl, rfl⟩

/-- A statement with a lone surrogate cannot be sent. -/
theorem Prepared.ofText_eq_error_iff {statement : Text} :
    (∃ unwritable, ofText statement = .error unwritable) ↔ statement.hasLone = true := by
  constructor
  · rintro ⟨unwritable, refused⟩
    cases lone : statement.hasLone with
    | true => rfl
    | false =>
        obtain ⟨prepared, made, -⟩ := exists_ofText lone
        simp [made] at refused
  · intro lone
    obtain ⟨unwritable, refused⟩ := Encoding.encode_utf8_eq_error_iff.mpr lone
    have surrogate : statement.hasSurrogate = true := by
      cases clean : statement.hasSurrogate with
      | true => rfl
      | false => simp [Text.hasLone_of_hasSurrogate_eq_false clean] at lone
    exact ⟨unwritable, by rw [ofText, if_pos surrogate, refused]; rfl⟩

theorem Prepared.hasLone_of_ofText {statement : Text} {prepared : Prepared}
    (made : ofText statement = .ok prepared) : statement.hasLone = false := by
  cases lone : statement.hasLone with
  | false => rfl
  | true =>
      obtain ⟨unwritable, refused⟩ := ofText_eq_error_iff.mpr lone
      cases made.symm.trans refused

/-- What a statement answers with before its rows: the description of its columns
where it has rows, the number of rows it affected where that is known, and the fault
with which no result can be made of it where there is one. -/
structure Reply where
  description : Option (List Column) := none
  affectedRows : Option Int := some 0
  resultFault : Option Fault := none
  deriving Repr

/-- The result of a reply with its rows, unless none can be made. -/
def Reply.result (reply : Reply) (columns : List Column) (rows : List (List Client.Raw)) :
    Except Fault Result :=
  match reply.resultFault with
  | some fault => .error fault
  | none => .ok (.ofReply columns rows reply.affectedRows)

/-- A call of the client library. -/
inductive Request where
  | connect (arguments : List (Text × Argument))
  | openCursor
  | execute (statement : Prepared) (parameters : List Client.Raw)
  | fetchAll
  | closeCursor
  | disconnect
  deriving Repr

/-- What a call is answered with. -/
def Request.Answer : Request → Type
  | .connect _ => Except Fault Unit
  | .openCursor => Except Fault Unit
  | .execute _ _ => Except Fault Reply
  | .fetchAll => Except Fault (List (List Client.Raw))
  | .closeCursor => Except Fault Unit
  | .disconnect => Except Fault Unit

/-- Whether an answer is one without a fault. -/
def Request.succeeded : (request : Request) → request.Answer → Bool
  | .connect _, .ok _ => true
  | .connect _, .error _ => false
  | .openCursor, .ok _ => true
  | .openCursor, .error _ => false
  | .execute _ _, .ok _ => true
  | .execute _ _, .error _ => false
  | .fetchAll, .ok _ => true
  | .fetchAll, .error _ => false
  | .closeCursor, .ok _ => true
  | .closeCursor, .error _ => false
  | .disconnect, .ok _ => true
  | .disconnect, .error _ => false

/-- A call that was made, and whether it succeeded. -/
structure Event where
  request : Request
  succeeded : Bool
  deriving Repr

end SqlDump.Server
