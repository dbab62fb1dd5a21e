import SqlDump.Proofs.Session.Course

/-!
# Connections of a session

A connection is attached as soon as the server accepts it. What fails after that, while its
time zone is set, leaves it attached and open; and a connection made while another one is
attached takes its place, so that nothing can close that one any more. Otherwise at most one
connection is open, and disconnecting closes it.

Main statements: `Session.connect_failure` for an attempt to connect that fails, and
`Session.atMostOne_iff_reconnections` for the connections of a sequence of operations.
-/

namespace SqlDump

open Server

namespace Server

/-- The fault with which the time zone of a connection cannot be set on a cursor. A fault of
the client library with the statement itself is none. -/
def CursorScript.timezoneFault? (cursor : CursorScript) : Option Fault :=
  cursor.openFault.or (cursor.closeFault.or (cursor.executeFault.filter (!·.isClient)))

end Server

namespace Blocking

variable {settings : Settings} {session after : Session}

/-! ## The time zone of a connection -/

/-- What follows the statement that sets a time zone. -/
def leaveTimezone (settings : Settings) (answer : Except Fault Reply) : Blocking Unit := do
  if let .error fault := answer then
    if fault.isClient then log .backend .warning (Notice.timezoneRefused settings fault)
  orFail .ofConnect (← call .closeCursor)
  if let .error fault := answer then
    if !fault.isClient then fail (.raised fault)

theorem setTimezone_eq (settings : Settings) :
    setTimezone settings = (do
      orFail .ofConnect (← call .openCursor)
      leaveTimezone settings (← call (.execute (.text (Query.timezone settings)) []))) := by
  unfold setTimezone
  congr 1
  funext opened
  congr 1
  funext _
  congr 1
  funext answer
  cases answer with
  | ok reply => rfl
  | error fault => rfl

/-- The cursor is closed, and a fault from outside the client library is passed on behind
that. -/
theorem leaveTimezone_run (settings : Settings) (executed : Option Fault) (reply : Reply)
    (session : Session) :
    (leaveTimezone settings (orFault executed reply) session).1 =
      (orFault (session.wire.script.current.closeFault.or (executed.filter (!·.isClient)))
        ()).mapError .ofConnect := by
  have answer (noted : Session) : (noted.wire.script.answer .closeCursor).1 =
      orFault noted.wire.script.current.closeFault () := rfl
  cases executed with
  | none =>
      simp only [leaveTimezone, orFault]
      rw [bind_run_of_eq_ok (call_run _ _), answer]
      cases session.wire.script.current.closeFault with
      | some closed => rfl
      | none => rfl
  | some fault =>
      cases client : fault.isClient with
      | true =>
          simp only [leaveTimezone, orFault, client, if_true]
          rw [bind_run_of_eq_ok (log_run_eq ..), bind_run_of_eq_ok (call_run _ _), answer,
            Option.filter_some_neg (by simp [client])]
          change ((orFail _ (orFault session.wire.script.current.closeFault ()) >>= _) _).1 = _
          cases session.wire.script.current.closeFault with
          | some closed => rfl
          | none => rfl
      | false =>
          have outside : Failure.ofConnect fault = .raised fault := if_neg (by simp [client])
          simp only [leaveTimezone, orFault, client]
          rw [Option.filter_some_pos (by simp [client])]
          change ((call .closeCursor >>= _) session).1 = _
          rw [bind_run_of_eq_ok (call_run _ _), answer]
          cases session.wire.script.current.closeFault with
          | some closed => rfl
          | none => exact congrArg Except.error outside.symm

theorem setTimezone_run (settings : Settings) (session : Session) :
    (setTimezone settings session).1 =
      (orFault (session.wire.script.cursorAt 0).timezoneFault? ()).mapError .ofConnect := by
  have current := session.wire.script.current_openCursor
  rw [setTimezone_eq, bind_run_of_eq_ok (call_run _ _), Script.answer_openCursor,
    CursorScript.timezoneFault?]
  cases (session.wire.script.cursorAt 0).openFault with
  | some fault => rfl
  | none =>
      rw [← current]
      exact leaveTimezone_run settings _ _ ((session.behind .openCursor).behind (.execute ..))

/-- Closing the cursor changes nothing for the statements that follow. -/
theorem leaveTimezone_standing (settings : Settings) (answer : Except Fault Reply)
    (session : Session) :
    (leaveTimezone settings answer session).2.standing = session.standing := by
  have closing {rest : Unit → Blocking Unit} (leaves : ∀ noted, (rest () noted).2 = noted)
      (noted : Session) :
      ((call .closeCursor >>= fun closed => orFail .ofConnect closed >>= rest) noted).2.standing =
        noted.standing := by
    have closed : (noted.behind .closeCursor).standing = noted.standing := by
      rw [Session.standing_behind, Standing.behind_eq_self rfl rfl]
    rw [bind_run_of_eq_ok (call_run _ _)]
    cases (noted.wire.script.answer .closeCursor).1 with
    | error fault => exact closed
    | ok value => exact (congrArg Session.standing (leaves _)).trans closed
  cases answer with
  | ok reply => exact closing (fun _ => rfl) session
  | error fault =>
      cases client : fault.isClient with
      | true =>
          simp only [leaveTimezone, client, if_true]
          rw [bind_run_of_eq_ok (log_run_eq ..)]
          exact closing (fun _ => rfl) (session.noted ..)
      | false =>
          simp only [leaveTimezone, client]
          exact closing (fun _ => rfl) session

/-- Where the time zone of a connection is set, a cursor was taken and the statement for it
handed over. -/
theorem setTimezone_run_eq_ok (ran : setTimezone settings session = (.ok (), after)) :
    after.standing =
      (session.standing.behind .openCursor).behind
        (.execute (.text (Query.timezone settings)) []) := by
  have outcome := setTimezone_run settings session
  rw [ran] at outcome
  cases opens : (session.wire.script.cursorAt 0).openFault with
  | some fault =>
      rw [CursorScript.timezoneFault?, opens] at outcome
      cases outcome
  | none =>
      rw [setTimezone_eq, bind_run_of_eq_ok (call_run _ _), Script.answer_openCursor, opens] at ran
      have left := leaveTimezone_standing settings
        ((session.behind .openCursor).wire.script.answer
          (.execute (.text (Query.timezone settings)) [])).1
        ((session.behind .openCursor).behind (.execute (.text (Query.timezone settings)) []))
      rw [Session.standing_behind, Session.standing_behind] at left
      exact (congrArg (·.2.standing) ran).symm.trans left

/-- A connection that was made fails where its time zone cannot be set. -/
theorem settle_run_eq_error {failure : Failure}
    (ran : settle settings session = (.error failure, after)) :
    settings.timezone.isTruthy = true ∧ setTimezone settings session = (.error failure, after) := by
  unfold settle at ran
  cases set : settings.timezone.isTruthy with
  | false =>
      rw [set] at ran
      cases ran
  | true =>
      rw [set, if_pos rfl, bind_apply] at ran
      refine ⟨rfl, ?_⟩
      cases settled : setTimezone settings session with
      | mk result between =>
          rw [settled] at ran
          cases result with
          | error stopped => exact ran
          | ok value => cases ran

end Blocking

/-! ## Connections that fail -/

namespace Session

variable {session after : Session} {settings : Settings} {operation : Operation}

/-- An attempt to connect that fails leaves no connection where the server refused it. Where
the server accepted it, the time zone could not be set, and the connection stays attached and
open. -/
theorem connect_failure {failure : Failure} (waiting : Waiting)
    (detached : session.context.attached = false) (connects : operation.connects = true)
    (failed : session.perform waiting settings operation = (.error failure, after)) :
    (∀ fault, session.refusal? = some fault →
      failure = .ofConnect fault ∧ after.context.attached = false ∧
        openConnections after.wire.history = openConnections session.wire.history) ∧
    (session.refusal? = none →
      (∃ fault, (session.wire.script.cursorAt 0).timezoneFault? = some fault ∧
        settings.timezone.isTruthy = true ∧ failure = .ofConnect fault) ∧
      after.context.attached = true ∧
        openConnections after.wire.history = openConnections session.wire.history + 1) := by
  have ran : Blocking.connect settings session = (.error failure, after) := by
    obtain ⟨outcome, ended⟩ := Operation.blocking_of_connects connects settings session
    rw [perform_eq, ended] at failed
    cases connected : Blocking.connect settings session with
    | mk result behind =>
        rw [connected] at failed
        cases result with
        | ok value => cases failed
        | error stopped =>
            cases failed
            rfl
  constructor
  · intro fault refused
    rw [Blocking.connect_run_of_refused refused] at ran
    cases ran
    have contact := session.contact_behind_of_refused refused settings.connectionArguments
    have history := congrArg Contact.history contact
    refine ⟨rfl, detached, ?_⟩
    change openConnections (session.behind _).contact.history = _
    rw [history]
    exact Int.zero_add _
  · intro accepted
    rw [Blocking.connect_run_of_accepted accepted] at ran
    obtain ⟨set, stopped⟩ := Blocking.settle_run_eq_error ran
    have outcome := Blocking.setTimezone_run settings (session.linked settings)
    have kept := ((Blocking.moves_setTimezone settings).moves
      (session.linked settings)).keepsConnections
    rw [stopped] at outcome kept
    rw [contact_linked_of_accepted accepted] at kept
    have sameCursor : (session.linked settings).wire.script.cursorAt 0 =
        session.wire.script.cursorAt 0 := rfl
    rw [sameCursor] at outcome
    cases found : (session.wire.script.cursorAt 0).timezoneFault? with
    | none =>
        rw [found] at outcome
        cases outcome
    | some fault =>
        rw [found] at outcome
        cases outcome
        have opened : openConnections after.wire.history =
            1 + openConnections session.wire.history := kept.openConnections_eq
        exact ⟨⟨fault, rfl, set, rfl⟩, kept.attached_eq, opened.trans (Int.add_comm ..)⟩

/-- A session whose server accepts a connection and hands out no cursor on it. -/
def halfConnected : Session :=
  .start { cursors := [{ openFault := some lostConnection }] } []

/-- The time zone of an accepted connection cannot be set at the beginning of a block. -/
theorem connect_failure_halfConnected :
    ∃ after, halfConnected.perform .suspended {} .enter =
        (.error (.connection lostConnection), after) ∧
      after.context.attached = true ∧ openConnections after.wire.history = 1 := by
  have failed : (halfConnected.perform .suspended {} .enter).1 =
      .error (.connection lostConnection) := rfl
  have run := Prod.ext failed rfl
  have ended := (connect_failure .suspended rfl rfl run).2 rfl
  exact ⟨_, run, ended.2⟩

/-- A fault of the client library can leave a connection attached that could not be set up. -/
theorem failed_connect_stays_connected :
    ¬ ∀ (session after : Session) (waiting : Waiting) (settings : Settings) (fault : Fault),
      session.context.attached = false → fault.isClient = true →
      session.perform waiting settings .connect = (.error (.connection fault), after) →
      after.context.attached = false ∧
        openConnections after.wire.history = openConnections session.wire.history := by
  intro disconnects
  have failed : halfConnected.perform .blocking {} .connect =
      (.error (.connection lostConnection), (halfConnected.perform .blocking {} .connect).2) := rfl
  have attached : (halfConnected.perform .blocking {} .connect).2.context.attached = true := rfl
  have detached := (disconnects _ _ _ _ _ rfl rfl failed).1
  exact Bool.noConfusion (attached.symm.trans detached)

/-! ## Connections of a sequence of operations -/

/-- How many operations of a sequence make a connection while another one is attached. -/
def reconnections (session : Session) (waiting : Waiting) (settings : Settings) :
    List Operation → Nat
  | [] => 0
  | operation :: rest =>
      (if session.reconnects operation then 1 else 0) +
        (session.perform waiting settings operation).2.reconnections waiting settings rest

theorem abandoned_departure (session : Session) (settings : Settings) (operation : Operation) :
    (session.departure settings operation).abandoned =
      session.contact.abandoned + (if session.reconnects operation then 1 else 0) := by
  unfold departure
  split
  · rename_i reconnects
    have attached : session.contact.attached = true := by
      simp only [Session.reconnects, Bool.and_eq_true] at reconnects
      exact reconnects.1.2
    rw [Contact.abandoned_linked, Contact.held_of_attached attached]
  · exact (Int.add_zero _).symm

theorem suffix_departure (session : Session) (settings : Settings) (operation : Operation) :
    session.contact.history <:+ (session.departure settings operation).history := by
  unfold departure
  split
  · exact List.suffix_cons ..
  · exact List.suffix_rfl

section Sequences

variable (session : Session) (waiting : Waiting) (settings : Settings) (operations : List Operation)

theorem perform_abandoned (operation : Operation) :
    (session.perform waiting settings operation).2.contact.abandoned =
      session.contact.abandoned + (if session.reconnects operation then 1 else 0) :=
  (session.perform_course waiting settings operation).abandoned_eq.trans
    (session.abandoned_departure settings operation)

/-- The connections that a sequence of operations abandons are those in whose place it makes
another one. -/
theorem performAll_abandoned :
    (session.performAll waiting settings operations).2.contact.abandoned =
      session.contact.abandoned + session.reconnections waiting settings operations := by
  induction operations generalizing session with
  | nil => exact (Int.add_zero _).symm
  | cons operation rest hypothesis =>
      have first := session.perform_abandoned waiting settings operation
      have others := hypothesis (session.perform waiting settings operation).2
      simp only [performAll, reconnections]
      rw [others, first]
      cases session.reconnects operation with
      | false =>
          simp only [Bool.false_eq_true, if_false]
          omega
      | true =>
          simp only [if_true]
          omega

theorem performAll_suffix :
    session.contact.history <:+
      (session.performAll waiting settings operations).2.contact.history := by
  induction operations generalizing session with
  | nil => exact List.suffix_rfl
  | cons operation rest hypothesis =>
      have course := session.perform_course waiting settings operation
      exact ((session.suffix_departure settings operation).trans course.suffix).trans
        (hypothesis (session.perform waiting settings operation).2)

/-- Where no connection is abandoned, at most one is open at any time of a sequence. -/
theorem performAll_atMostOne (none : session.contact.abandoned = 0)
    (few : AtMostOne session.contact.history)
    (never : session.reconnections waiting settings operations = 0) :
    AtMostOne (session.performAll waiting settings operations).2.contact.history := by
  induction operations generalizing session with
  | nil => exact few
  | cons operation rest hypothesis =>
      have counted : (if session.reconnects operation then 1 else 0) +
          (session.perform waiting settings operation).2.reconnections waiting settings rest = 0 :=
        never
      have looks : session.reconnects operation = false := by
        cases reconnects : session.reconnects operation with
        | false => rfl
        | true =>
            rw [reconnects, if_pos rfl] at counted
            omega
      have course := session.perform_course waiting settings operation
      rw [departure, looks, if_neg Bool.false_ne_true] at course
      exact hypothesis _ (course.abandoned_eq.trans none) (course.atMostOne none few)
        (Nat.eq_zero_of_add_eq_zero_left counted)

/-- A connection made in the place of another one would be the second one that is open. -/
theorem reconnections_eq_zero (some : 0 ≤ session.contact.abandoned)
    (few : AtMostOne (session.performAll waiting settings operations).2.contact.history) :
    session.reconnections waiting settings operations = 0 := by
  induction operations generalizing session with
  | nil => rfl
  | cons operation rest hypothesis =>
      cases reconnects : session.reconnects operation with
      | false =>
          have first := session.perform_abandoned waiting settings operation
          rw [reconnects, if_neg Bool.false_ne_true, Int.add_zero] at first
          rw [reconnections, reconnects, if_neg Bool.false_ne_true, Nat.zero_add]
          exact hypothesis _ (first ▸ some) few
      | true =>
          have course := session.perform_course waiting settings operation
          have suffix := (session.perform waiting settings operation).2.performAll_suffix
            waiting settings rest
          have open_le := (few.of_suffix (course.suffix.trans suffix)).now
          have abandoned := session.abandoned_departure settings operation
          have held : (session.departure settings operation).held = 1 := by
            rw [departure, if_pos reconnects]
            rfl
          rw [Contact.abandoned, held, reconnects, if_pos rfl] at abandoned
          omega

end Sequences

/-- Disconnecting leaves no connection attached when it returns. -/
theorem attached_of_disconnect {outcome : Outcome} (waiting : Waiting) (settings : Settings)
    (ran : session.perform waiting settings .disconnect = (.ok outcome, after)) :
    after.context.attached = false := by
  rw [perform_eq] at ran
  obtain ⟨value, between, ended, returned⟩ := Blocking.bind_run_eq_ok ran
  cases returned
  cases attached : session.context.attached with
  | false =>
      rw [Blocking.disconnect_run_of_detached attached] at ended
      cases ended
      exact attached
  | true =>
      cases closing : session.wire.script.closingFault? with
      | some fault =>
          rw [Blocking.disconnect_run_of_kept attached closing] at ended
          cases ended
      | none =>
          rw [Blocking.disconnect_run_of_attached attached closing] at ended
          cases ended
          rfl

/-- At most one connection of a session is open at any time exactly if no operation connects
while another connection is attached. Behind a disconnect that returns, those in whose place
another one was made are the only ones that are open. -/
theorem atMostOne_iff_reconnections (script : Script) (files : Files) (waiting : Waiting)
    (settings : Settings) (operations : List Operation) :
    let begun := Session.start script files
    let last := (begun.performAll waiting settings operations).2
    (AtMostOne last.wire.history ↔ begun.reconnections waiting settings operations = 0) ∧
    ∀ (outcome : Outcome) (after : Session),
      last.perform waiting settings .disconnect = (.ok outcome, after) →
      openConnections after.wire.history = begun.reconnections waiting settings operations := by
  intro begun last
  have nothing : begun.contact.abandoned = 0 := rfl
  have few : AtMostOne begun.contact.history := by
    intro earlier suffix
    rw [List.suffix_nil.mp suffix]
    decide
  refine ⟨⟨?_, ?_⟩, ?_⟩
  · exact begun.reconnections_eq_zero waiting settings operations (Int.le_of_eq nothing.symm)
  · exact begun.performAll_atMostOne waiting settings operations nothing few
  · intro outcome after ran
    have abandoned := last.perform_abandoned waiting settings .disconnect
    rw [ran, begun.performAll_abandoned, nothing, Int.zero_add] at abandoned
    have detached : after.contact.attached = false := attached_of_disconnect waiting settings ran
    have looks : last.reconnects .disconnect = false := rfl
    rw [Contact.abandoned, Contact.held_of_detached detached, looks, if_neg Bool.false_ne_true,
      Int.add_zero, Int.sub_zero] at abandoned
    exact abandoned

/-- A session that connects for a statement, and again at the beginning of a block, and what
is open behind the block. -/
theorem atMostOne_iff_reconnections_block :
    let operations : List Operation := [.execute (text "DO 1") [], .enter]
    let last := ((start {} []).performAll .suspended {} operations).2
    ¬ AtMostOne last.wire.history ∧
    ∃ after, last.perform .suspended {} .disconnect = (.ok .nothing, after) ∧
      openConnections after.wire.history = 1 := by
  intro operations last
  obtain ⟨few, disconnected⟩ := atMostOne_iff_reconnections {} [] .suspended {} operations
  have once : (start {} []).reconnections .suspended {} operations = 1 := rfl
  have ran : last.perform .suspended {} .disconnect =
      (.ok .nothing, (last.perform .suspended {} .disconnect).2) := rfl
  refine ⟨fun atMostOne => ?_, _, ran, ?_⟩
  · have never := few.mp atMostOne
    rw [once] at never
    cases never
  · rw [disconnected _ _ ran, once]
    rfl

/-- Settings that leave the time zone of a connection alone. -/
def withoutTimezone : Settings :=
  { timezone := .nothing }

/-- Although every call succeeds, two connections can be open at once, and one of them stays
open behind disconnecting. -/
theorem second_connection_stays_open :
    ¬ ∀ (script : Script) (files : Files) (waiting : Waiting) (settings : Settings)
        (operations : List Operation),
      let last := ((start script files).performAll waiting settings operations).2
      let parted := last.perform waiting settings .disconnect
      (∀ event ∈ parted.2.wire.history, event.succeeded = true) →
      AtMostOne last.wire.history ∧ openConnections parted.2.wire.history = 0 := by
  intro single
  have succeeded :
      let last := ((start {} []).performAll .blocking withoutTimezone [.connect, .connect]).2
      let parted := last.perform .blocking withoutTimezone .disconnect
      (parted.2.wire.history.all fun event => event.succeeded) = true := rfl
  have ended := (single {} [] .blocking withoutTimezone [.connect, .connect]
    (List.all_eq_true.mp succeeded)).2
  cases ended

end Session

end SqlDump
