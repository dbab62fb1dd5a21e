import Mathlib.Logic.Relation
import SqlDump.Session.Basic

/-!
# Contact with the server

A session is in contact with the server through the connection that is attached and the
calls that it has made. The contact changes in strides: a connection is made where none is
attached, the attached one is given up, or a cursor is visited. A visit ends when the cursor
is closed, and there is no other stride during a visit. Errands are the strides that keep the
attached connection.

Main statements: `Course.closings_eq` and `Course.openCursors_eq` for the cursors that are
visited in a course of strides, `Course.abandoned_eq` and `Course.atMostOne` for the
connections that are open, `Errands.sameConnection` for errands on the attached one.
-/

namespace SqlDump

open Server

namespace Server

/-- How often each cursor was closed by calls, given latest first: the numbers for the
cursors, the one handed out last in front. An operation has one cursor at a time, so that a
call reaches the one handed out last. -/
def closings : (history : List Event) → List Nat
  | [] => []
  | event :: earlier =>
      match event.request with
      | .openCursor => if event.succeeded then 0 :: closings earlier else closings earlier
      | .closeCursor => (closings earlier).modifyHead (· + 1)
      | _ => closings earlier

/-- The calls that are made on an open cursor and leave it open. -/
inductive Request.IsStatement : Request → Prop
  | execute (statement : Prepared) (parameters : List Client.Raw) :
      IsStatement (.execute statement parameters)
  | fetchAll : IsStatement .fetchAll

section Statements

variable {request : Request} (statement : request.IsStatement) (succeeded : Bool)
  (earlier : List Event)

include statement

theorem closings_statement :
    closings ({ request, succeeded } :: earlier) = closings earlier := by
  cases statement with
  | execute => rfl
  | fetchAll => rfl

theorem openCursors_statement :
    openCursors ({ request, succeeded } :: earlier) = openCursors earlier := by
  cases statement with
  | execute => exact Int.zero_add _
  | fetchAll => exact Int.zero_add _

theorem connectionChange_statement : Event.connectionChange { request, succeeded } = 0 := by
  cases statement with
  | execute => rfl
  | fetchAll => rfl

end Statements

/-- Whether at most one connection was open at any time. -/
def AtMostOne (history : List Event) : Prop :=
  ∀ earlier, earlier <:+ history → openConnections earlier ≤ 1

variable {event : Event} {history earlier : List Event}

theorem AtMostOne.now (few : AtMostOne history) : openConnections history ≤ 1 :=
  few history List.suffix_rfl

theorem AtMostOne.of_suffix (few : AtMostOne history) (suffix : earlier <:+ history) :
    AtMostOne earlier :=
  fun _ before => few _ (before.trans suffix)

theorem AtMostOne.cons (few : AtMostOne history) (now : openConnections (event :: history) ≤ 1) :
    AtMostOne (event :: history) := by
  simp only [AtMostOne, List.suffix_cons_iff, forall_eq_or_imp]
  exact ⟨now, few⟩

/-- A call that opens no connection leaves at most one. -/
theorem AtMostOne.cons_of_le (few : AtMostOne history) (fewer : event.connectionChange ≤ 0) :
    AtMostOne (event :: history) :=
  few.cons (Int.add_le_add fewer few.now)

end Server

/-- Whether a connection is attached, and the calls that were made, latest first. -/
structure Contact where
  attached : Bool
  history : List Event

/-- The contact of a session with the server. -/
def Session.contact (session : Session) : Contact :=
  { attached := session.context.attached, history := session.wire.history }

theorem Session.events_eq (session : Session) :
    session.wire.events = session.contact.history.reverse := rfl

namespace Contact

variable {contact after : Contact}

/-- The contact behind a call that changes nothing about the connection. -/
def behind (contact : Contact) (request : Request) (succeeded : Bool) : Contact :=
  { contact with history := { request, succeeded } :: contact.history }

/-- The contact behind a connection that was made. -/
def linked (contact : Contact) (arguments : List (Text × Argument)) : Contact :=
  { attached := true, history := ⟨.connect arguments, true⟩ :: contact.history }

/-- The contact behind a connection that was given up. -/
def parted (contact : Contact) : Contact :=
  { attached := false, history := ⟨.disconnect, true⟩ :: contact.history }

/-- What happens on an open cursor until it is closed. -/
inductive Closes : Contact → Contact → Prop
  | close (contact : Contact) (succeeded : Bool) :
      Closes contact (contact.behind .closeCursor succeeded)
  | use {contact after : Contact} {request : Request} (statement : request.IsStatement)
      (succeeded : Bool) (closes : Closes (contact.behind request succeeded) after) :
      Closes contact after

/-- What happens when a cursor is asked for. -/
inductive Visit : Contact → Contact → Prop
  | refused (contact : Contact) : Visit contact (contact.behind .openCursor false)
  | closed {contact after : Contact} (closes : Closes (contact.behind .openCursor true) after) :
      Visit contact after

/-- What an operation does at once. -/
inductive Stride : Contact → Contact → Prop
  /-- The server refuses a connection. -/
  | refused (contact : Contact) (arguments : List (Text × Argument)) :
      Stride contact (contact.behind (.connect arguments) false)
  | linked {contact : Contact} (detached : contact.attached = false)
      (arguments : List (Text × Argument)) : Stride contact (contact.linked arguments)
  | visit {contact after : Contact} (visited : Visit contact after) : Stride contact after
  /-- The attached connection cannot be closed. -/
  | kept (contact : Contact) : Stride contact (contact.behind .disconnect false)
  | parted {contact : Contact} (attached : contact.attached = true) : Stride contact contact.parted

/-- Strides one after another. -/
abbrev Course : Contact → Contact → Prop :=
  Relation.ReflTransGen Stride

/-- What an operation does at once that keeps the attached connection: where there is one
it only visits cursors. -/
inductive Errand : Contact → Contact → Prop
  /-- The server refuses a connection. -/
  | refused {contact : Contact} (detached : contact.attached = false)
      (arguments : List (Text × Argument)) :
      Errand contact (contact.behind (.connect arguments) false)
  | linked {contact : Contact} (detached : contact.attached = false)
      (arguments : List (Text × Argument)) : Errand contact (contact.linked arguments)
  | visit {contact after : Contact} (visited : Visit contact after) : Errand contact after

/-- Errands one after another. -/
abbrev Errands : Contact → Contact → Prop :=
  Relation.ReflTransGen Errand

theorem Errand.stride (errand : Errand contact after) : Stride contact after := by
  cases errand with
  | refused detached arguments => exact .refused contact arguments
  | linked detached arguments => exact .linked detached arguments
  | visit visited => exact .visit visited

theorem Errands.course (errands : Errands contact after) : Course contact after :=
  Relation.ReflTransGen.mono (fun _ _ errand => errand.stride) _ _ errands

/-! ## Cursors -/

theorem Closes.closings_eq (closes : Closes contact after) :
    closings after.history = (closings contact.history).modifyHead (· + 1) := by
  induction closes with
  | close contact succeeded => rfl
  | use statement succeeded closes hypothesis =>
      rw [hypothesis, behind, closings_statement statement]

theorem Closes.openCursors_eq (closes : Closes contact after) :
    openCursors after.history = openCursors contact.history - 1 := by
  induction closes with
  | close contact succeeded => exact Int.add_comm ..
  | use statement succeeded closes hypothesis =>
      rw [hypothesis, behind, openCursors_statement statement]

/-- A visit to a cursor that is handed out closes it once. -/
theorem Visit.closings_eq (visited : Visit contact after) :
    ∃ opened, closings after.history = List.replicate opened 1 ++ closings contact.history := by
  cases visited with
  | refused => exact ⟨0, rfl⟩
  | closed closes => exact ⟨1, closes.closings_eq⟩

theorem Visit.openCursors_eq (visited : Visit contact after) :
    openCursors after.history = openCursors contact.history := by
  cases visited with
  | refused => exact Int.zero_add _
  | closed closes =>
      have opened : openCursors (contact.behind .openCursor true).history =
          1 + openCursors contact.history := rfl
      rw [closes.openCursors_eq, opened]
      omega

theorem Stride.closings_eq (stride : Stride contact after) :
    ∃ opened, closings after.history = List.replicate opened 1 ++ closings contact.history := by
  cases stride with
  | refused arguments => exact ⟨0, rfl⟩
  | linked detached arguments => exact ⟨0, rfl⟩
  | visit visited => exact visited.closings_eq
  | kept => exact ⟨0, rfl⟩
  | parted attached => exact ⟨0, rfl⟩

theorem Stride.openCursors_eq (stride : Stride contact after) :
    openCursors after.history = openCursors contact.history := by
  cases stride with
  | refused arguments => exact Int.zero_add _
  | linked detached arguments => exact Int.zero_add _
  | visit visited => exact visited.openCursors_eq
  | kept => exact Int.zero_add _
  | parted attached => exact Int.zero_add _

/-- The cursors handed out in a course are closed once each, and those handed out before it
are left alone. -/
theorem Course.closings_eq (course : Course contact after) :
    ∃ opened, closings after.history = List.replicate opened 1 ++ closings contact.history := by
  induction course with
  | refl => exact ⟨0, rfl⟩
  | tail _ stride hypothesis =>
      obtain ⟨before, earlier⟩ := hypothesis
      obtain ⟨opened, later⟩ := stride.closings_eq
      refine ⟨opened + before, ?_⟩
      rw [later, earlier, ← List.append_assoc, List.replicate_append_replicate]

theorem Course.openCursors_eq (course : Course contact after) :
    openCursors after.history = openCursors contact.history := by
  induction course with
  | refl => rfl
  | tail _ stride hypothesis => exact stride.openCursors_eq.trans hypothesis

/-! ## Connections -/

/-- The connections that are attached: one or none. -/
def held (contact : Contact) : Int :=
  if contact.attached then 1 else 0

theorem held_of_attached (attached : contact.attached = true) : contact.held = 1 :=
  if_pos attached

theorem held_of_detached (detached : contact.attached = false) : contact.held = 0 := by
  simp [held, detached]

/-- The open connections that are not attached, which nothing can close any more. -/
def abandoned (contact : Contact) : Int :=
  openConnections contact.history - contact.held

/-- A connection that is made where one is attached abandons that one. -/
theorem abandoned_linked (contact : Contact) (arguments : List (Text × Argument)) :
    (contact.linked arguments).abandoned = contact.abandoned + contact.held := by
  have opened : openConnections (contact.linked arguments).history =
      1 + openConnections contact.history := rfl
  have held : (contact.linked arguments).held = 1 := rfl
  rw [abandoned, opened, held, abandoned]
  omega

theorem Closes.attached_eq (closes : Closes contact after) : after.attached = contact.attached := by
  induction closes with
  | close => rfl
  | use _ _ _ hypothesis => exact hypothesis

theorem Closes.openConnections_eq (closes : Closes contact after) :
    openConnections after.history = openConnections contact.history := by
  induction closes with
  | close => exact Int.zero_add _
  | use statement succeeded closes hypothesis =>
      rw [hypothesis, behind, openConnections, connectionChange_statement statement, Int.zero_add]

/-- Whether the connections are the same behind a change of contact. -/
structure KeepsConnections (contact after : Contact) : Prop where
  attached_eq : after.attached = contact.attached
  openConnections_eq : openConnections after.history = openConnections contact.history

theorem Visit.keepsConnections (visited : Visit contact after) :
    contact.KeepsConnections after := by
  cases visited with
  | refused => exact ⟨rfl, Int.zero_add _⟩
  | closed closes => exact ⟨closes.attached_eq, closes.openConnections_eq.trans (Int.zero_add _)⟩

theorem Stride.abandoned_eq (stride : Stride contact after) :
    after.abandoned = contact.abandoned := by
  cases stride with
  | refused arguments => exact congrArg (· - contact.held) (Int.zero_add _)
  | linked detached arguments =>
      rw [abandoned_linked, held_of_detached detached]
      exact Int.add_zero _
  | visit visited =>
      obtain ⟨sameAttached, sameOpen⟩ := visited.keepsConnections
      rw [abandoned, held, sameOpen, sameAttached]
      rfl
  | kept => exact congrArg (· - contact.held) (Int.zero_add _)
  | parted attached =>
      have closed : openConnections contact.parted.history =
          -1 + openConnections contact.history := rfl
      have parted : contact.parted.held = 0 := rfl
      rw [abandoned, closed, parted, abandoned, held_of_attached attached]
      omega

/-- No connection is abandoned in a course. -/
theorem Course.abandoned_eq (course : Course contact after) :
    after.abandoned = contact.abandoned := by
  induction course with
  | refl => rfl
  | tail _ stride hypothesis => exact stride.abandoned_eq.trans hypothesis

theorem Closes.suffix (closes : Closes contact after) : contact.history <:+ after.history := by
  induction closes with
  | close => exact List.suffix_cons ..
  | use _ _ _ hypothesis => exact (List.suffix_cons ..).trans hypothesis

theorem Stride.suffix (stride : Stride contact after) : contact.history <:+ after.history := by
  cases stride with
  | refused arguments => exact List.suffix_cons ..
  | linked detached arguments => exact List.suffix_cons ..
  | visit visited =>
      cases visited with
      | refused => exact List.suffix_cons ..
      | closed closes => exact (List.suffix_cons ..).trans closes.suffix
  | kept => exact List.suffix_cons ..
  | parted attached => exact List.suffix_cons ..

/-- The calls made before a course are still there behind it. -/
theorem Course.suffix (course : Course contact after) : contact.history <:+ after.history := by
  induction course with
  | refl => exact List.suffix_rfl
  | tail _ stride hypothesis => exact hypothesis.trans stride.suffix

theorem Closes.atMostOne (closes : Closes contact after) (few : AtMostOne contact.history) :
    AtMostOne after.history := by
  induction closes with
  | close contact succeeded => exact few.cons_of_le Int.le_rfl
  | use statement succeeded closes hypothesis =>
      exact hypothesis (few.cons_of_le (Int.le_of_eq (connectionChange_statement statement _)))

/-- Where no connection is abandoned, a stride leaves at most one open. -/
theorem Stride.atMostOne (stride : Stride contact after) (none : contact.abandoned = 0)
    (few : AtMostOne contact.history) : AtMostOne after.history := by
  cases stride with
  | refused arguments => exact few.cons_of_le Int.le_rfl
  | linked detached arguments =>
      apply few.cons
      have opened : openConnections (contact.linked arguments).history =
          1 + openConnections contact.history := rfl
      rw [abandoned, held_of_detached detached] at none
      change openConnections (contact.linked arguments).history ≤ 1
      omega
  | visit visited =>
      cases visited with
      | refused => exact few.cons_of_le Int.le_rfl
      | closed closes => exact closes.atMostOne (few.cons_of_le Int.le_rfl)
  | kept => exact few.cons_of_le Int.le_rfl
  | parted attached => exact few.cons_of_le (by decide)

theorem Course.atMostOne (course : Course contact after) (none : contact.abandoned = 0)
    (few : AtMostOne contact.history) : AtMostOne after.history := by
  induction course with
  | refl => exact few
  | tail earlier stride hypothesis =>
      exact stride.atMostOne ((Course.abandoned_eq earlier).trans none) hypothesis

/-! ## Calls on one connection -/

end Contact

/-- Whether a call is made on a connection and leaves it open. -/
def Server.Request.usesConnection : Request → Bool
  | .connect _ | .disconnect => false
  | _ => true

theorem Server.Request.IsStatement.usesConnection {request : Request}
    (statement : request.IsStatement) : request.usesConnection = true := by
  cases statement with
  | execute => rfl
  | fetchAll => rfl

namespace Contact

variable {contact between after : Contact}

/-- Whether a contact is what another one becomes by calls on its connection. -/
structure SameConnection (contact after : Contact) : Prop where
  attached_eq : after.attached = contact.attached
  calls : ∃ calls, after.history = calls ++ contact.history ∧
    ∀ event ∈ calls, event.request.usesConnection = true

theorem SameConnection.refl (contact : Contact) : contact.SameConnection contact where
  attached_eq := rfl
  calls := ⟨[], rfl, by simp⟩

theorem SameConnection.trans (first : contact.SameConnection between)
    (second : between.SameConnection after) : contact.SameConnection after := by
  obtain ⟨firstCalls, firstHistory, firstUse⟩ := first.calls
  obtain ⟨secondCalls, secondHistory, secondUse⟩ := second.calls
  refine ⟨second.attached_eq.trans first.attached_eq, secondCalls ++ firstCalls, ?_, ?_⟩
  · rw [secondHistory, firstHistory, List.append_assoc]
  · exact List.forall_mem_append.mpr ⟨secondUse, firstUse⟩

theorem sameConnection_behind {request : Request} (uses : request.usesConnection = true)
    (succeeded : Bool) : contact.SameConnection (contact.behind request succeeded) where
  attached_eq := rfl
  calls := ⟨[{ request, succeeded }], rfl, by simpa using uses⟩

theorem Closes.sameConnection (closes : Closes contact after) : contact.SameConnection after := by
  induction closes with
  | close contact succeeded => exact sameConnection_behind rfl succeeded
  | use statement succeeded _ hypothesis =>
      exact (sameConnection_behind statement.usesConnection succeeded).trans hypothesis

theorem Visit.sameConnection (visited : Visit contact after) : contact.SameConnection after := by
  cases visited with
  | refused => exact sameConnection_behind rfl false
  | closed closes => exact (sameConnection_behind rfl true).trans closes.sameConnection

/-- Where a connection is attached, errands are done on it. -/
theorem Errands.sameConnection (errands : Errands contact after)
    (attached : contact.attached = true) : contact.SameConnection after := by
  induction errands with
  | refl => exact .refl contact
  | tail _ errand hypothesis =>
      have stillAttached := hypothesis.attached_eq.trans attached
      cases errand with
      | refused detached =>
          rw [stillAttached] at detached
          cases detached
      | linked detached =>
          rw [stillAttached] at detached
          cases detached
      | visit visited => exact hypothesis.trans visited.sameConnection

end Contact

end SqlDump
