import SqlDump.Proofs.Session.Run
import SqlDump.Proofs.Session.Waiting

/-!
# How far a restore comes

On an attached connection each statement of a script takes one cursor and is handed over
once. The statements are handed over one after another as long as they can be sent and their
cursors have no fault for them. The first one that fails is the last: a fault comes to light
when it has been handed over, and a lone surrogate before a cursor is opened for it.

Main statements: `executeFrom_append_run` for statements that pass,
`executeFrom_cons_run_of_fault` and `executeFrom_cons_run_of_unwritable` for the one that fails,
and `restore_stops_at_first_failure` for the whole script.
-/

namespace SqlDump

open Server

namespace Server

/-- Whether nothing but its statement can fail on a cursor, and that with a fault of the
client library. -/
structure CursorScript.FailsInStatement (cursor : CursorScript) : Prop where
  opens : cursor.openFault = none
  closes : cursor.closeFault = none
  client : ∀ fault ∈ cursor.statementFault?, fault.isClient = true

/-- A script without further cursors fails nowhere. -/
theorem Script.failsInStatement_cursorAt {script : Script}
    (each : ∀ cursor ∈ script.cursors, cursor.FailsInStatement) (place : Nat) :
    (script.cursorAt place).FailsInStatement := by
  rw [cursorAt]
  cases found : script.cursors[place]? with
  | none => exact ⟨rfl, rfl, by simp [CursorScript.statementFault?]⟩
  | some cursor => exact each cursor (List.mem_of_getElem? found)

/-- A statement without parameters as it is handed over, where it can be sent. -/
def bare? (statement : Text) : Option (Prepared × List Client.Raw) :=
  (Prepared.ofText statement).toOption.map fun prepared => (prepared, [])

theorem bare?_of_ofText {statement : Text} {prepared : Prepared}
    (made : Prepared.ofText statement = .ok prepared) : bare? statement = some (prepared, []) := by
  rw [bare?, made]
  rfl

end Server

/-- The statement that chooses a database, where one is named. -/
def Statement.choice (database : Option Text) : List Text :=
  ((database.filter (!·.isEmpty)).map use).toList

theorem Statement.mem_choice_iff {database : Option Text} {statement : Text} :
    statement ∈ choice database ↔
      ∃ name, database.filter (!·.isEmpty) = some name ∧ use name = statement := by
  rw [choice, Option.mem_toList, Option.map_eq_some_iff]

/-- Whether a session is ready for statements: it has a connection, on which nothing but
statements fails. -/
structure Session.Ready (session : Session) : Prop where
  attached : session.context.attached = true
  cursors : ∀ cursor ∈ session.wire.script.cursors, cursor.FailsInStatement

/-- The fault that the server has for the statement after `place` others. -/
def Session.faultAt? (session : Session) (place : Nat) : Option Fault :=
  (session.wire.script.cursorAt place).statementFault?

/-- Whether statements are executed one after another without a failure: each can be sent,
and the server has no fault for it. -/
structure Session.Passes (session : Session) (statements : List Text) : Prop where
  sendable : ∀ statement ∈ statements, statement.hasLone = false
  faultless : ∀ place < statements.length, session.faultAt? place = none

/-- Whether a session is what another one becomes when it hands statements over, each on
one cursor. -/
structure Session.HandsOver (before after : Session) (statements : List Text) : Prop where
  attached : after.context.attached = before.context.attached
  cursors : after.wire.script.cursors = before.wire.script.cursors.drop statements.length
  handed : after.wire.handed = before.wire.handed ++ statements.filterMap bare?

namespace Session

variable {before between after : Session} {first second : List Text}

theorem HandsOver.trans (firstHands : before.HandsOver between first)
    (secondHands : between.HandsOver after second) : before.HandsOver after (first ++ second) where
  attached := secondHands.attached.trans firstHands.attached
  cursors := by
    rw [secondHands.cursors, firstHands.cursors, List.drop_drop, List.length_append]
  handed := by
    rw [secondHands.handed, firstHands.handed, List.filterMap_append, List.append_assoc]

theorem handsOver_of_standing_eq (same : after.standing = before.standing) :
    before.HandsOver after [] where
  attached := congrArg Standing.attached same
  cursors := congrArg (·.script.cursors) same
  handed := (congrArg Standing.handed same).trans (List.append_nil _).symm

/-- A statement on a cursor of its own is handed over. -/
theorem handsOver_of_standing_behind {statement : Text} {prepared : Prepared}
    (made : Prepared.ofText statement = .ok prepared)
    (moved : after.standing =
      (before.standing.behind .openCursor).behind (.execute prepared [])) :
    before.HandsOver after [statement] where
  attached := congrArg Standing.attached moved
  cursors := (congrArg (·.script.cursors) moved).trans List.drop_one.symm
  handed := by
    have handed : after.wire.handed = before.wire.handed ++ [] ++ [(prepared, [])] :=
      congrArg Standing.handed moved
    rw [handed, List.append_nil, List.filterMap_cons, bare?_of_ofText made, List.filterMap_nil]

theorem HandsOver.cursorAt (hands : before.HandsOver after first) (place : Nat) :
    after.wire.script.cursorAt place = before.wire.script.cursorAt (first.length + place) := by
  simp only [Script.cursorAt, hands.cursors, List.getElem?_drop]

theorem HandsOver.ready (hands : before.HandsOver after first) (ready : before.Ready) :
    after.Ready where
  attached := hands.attached.trans ready.attached
  cursors := by
    intro cursor member
    rw [hands.cursors] at member
    exact ready.cursors cursor (List.mem_of_mem_drop member)

theorem HandsOver.faultAt? (hands : before.HandsOver after first) (place : Nat) :
    after.faultAt? place = before.faultAt? (first.length + place) := by
  rw [Session.faultAt?, hands.cursorAt, Session.faultAt?]

theorem Passes.left (passes : before.Passes (first ++ second)) : before.Passes first where
  sendable statement member := passes.sendable statement (List.mem_append_left _ member)
  faultless place below :=
    passes.faultless place (by rw [List.length_append]; exact Nat.lt_add_right _ below)

/-- What passes behind other statements passes in the session behind them. -/
theorem HandsOver.passes (hands : before.HandsOver after first)
    (passes : before.Passes (first ++ second)) : after.Passes second where
  sendable statement member := passes.sendable statement (List.mem_append_right _ member)
  faultless place below :=
    (hands.faultAt? place).trans
      (passes.faultless _ (by rw [List.length_append]; exact Nat.add_lt_add_left below _))

theorem Ready.isClient_of_faultAt? {session : Session} (ready : session.Ready) {place : Nat}
    {fault : Fault} (fails : session.faultAt? place = some fault) : fault.isClient = true :=
  (Script.failsInStatement_cursorAt ready.cursors place).client fault fails

end Session

namespace Blocking

variable {settings : Settings} {session : Session} {statement : Text}

/-- A statement that can be sent is handed over on a session that is ready, and ends with the
fault that the server has for it, if there is one. -/
theorem execute_ready_run (ready : session.Ready) (sendable : statement.hasLone = false)
    (settings : Settings) :
    ∃ result after,
      execute settings statement [] session =
          (match session.faultAt? 0 with
            | none => .ok result
            | some fault => .error (.ofFault fault), after) ∧
        session.HandsOver after [statement] := by
  have cursor := session.wire.script.failsInStatement_cursorAt ready.cursors 0
  obtain ⟨prepared, made, -⟩ := Prepared.exists_ofText sendable
  obtain ⟨after, ran, standing⟩ :=
    execute_run ready.attached made cursor.opens cursor.closes settings []
  refine ⟨(session.wire.script.cursorAt 0).result, after, ?_, ?_⟩
  · rw [ran, Session.faultAt?, CursorScript.outcome]
    cases fails : (session.wire.script.cursorAt 0).statementFault? with
    | none => rfl
    | some fault =>
        have translated : Failure.ofStatement fault = .ofFault fault :=
          if_pos (cursor.client fault fails)
        exact congrArg (fun failure => (Except.error failure, after)) translated
  · exact Session.handsOver_of_standing_behind made standing

/-- Statements that pass are handed over, and what follows them starts behind them. -/
theorem executeFrom_append_run (settings : Settings) (total index : Nat) {passed : List Text}
    (ready : session.Ready) (passes : session.Passes passed) :
    ∃ after, session.HandsOver after passed ∧ ∀ rest,
      executeFrom settings total index (passed ++ rest) session =
        executeFrom settings total (index + passed.length) rest after := by
  induction passed generalizing session index with
  | nil => exact ⟨session, Session.handsOver_of_standing_eq rfl, fun _ => rfl⟩
  | cons statement others hypothesis =>
      obtain ⟨result, between, ran, hands⟩ :=
        execute_ready_run ready (passes.sendable statement (by simp)) settings
      rw [passes.faultless 0 (by simp)] at ran
      obtain ⟨after, othersHand, continues⟩ :=
        hypothesis (index + 1) (hands.ready ready) (hands.passes passes)
      refine ⟨after, hands.trans othersHand, fun rest => ?_⟩
      have attempted : attempt (execute settings statement []) session =
          (.ok (.ok result), between) := by
        rw [attempt, ran]
      rw [List.cons_append, executeFrom, bind_run_of_eq_ok attempted]
      simp only
      rw [continues, List.length_cons]
      congr 1
      omega

/-- A statement that the server has a fault for is handed over, and stops the restore with a
report. -/
theorem executeFrom_cons_run_of_fault (settings : Settings) (total index : Nat) {fault : Fault}
    (ready : session.Ready) (sendable : statement.hasLone = false)
    (fails : session.faultAt? 0 = some fault) (rest : List Text) :
    ∃ after, session.HandsOver after [statement] ∧
      executeFrom settings total index (statement :: rest) session =
        (.error (.restore index total statement (.ofFault fault)), after) := by
  obtain ⟨result, between, ran, hands⟩ := execute_ready_run ready sendable settings
  rw [fails] at ran
  have attempted : attempt (execute settings statement []) session =
      (.ok (.error (.ofFault fault)), between) := by
    rw [attempt, ran]
  have own := Failure.isOwn_ofFault (ready.isClient_of_faultAt? fails)
  obtain ⟨after, reportRun, reportStanding⟩ :=
    log_run .restore .error (Failure.restore index total statement (.ofFault fault)).message
      between
  refine ⟨after, hands.trans (Session.handsOver_of_standing_eq reportStanding), ?_⟩
  rw [executeFrom, bind_run_of_eq_ok attempted]
  simp only [reportFailure, own, if_true]
  rw [bind_run_of_eq_ok reportRun]
  rfl

/-- A statement that cannot be sent stops the restore without a report, and nothing is handed
over for it. -/
theorem executeFrom_cons_run_of_unwritable (settings : Settings) (total index : Nat)
    {unwritable : Encoding.Unwritable} (ready : session.Ready)
    (refused : Prepared.ofText statement = .error unwritable) (rest : List Text) :
    ∃ after, session.HandsOver after [] ∧
      executeFrom settings total index (statement :: rest) session =
        (.error (.statement unwritable), after) := by
  obtain ⟨after, ran, standing⟩ := execute_run_of_unwritable ready.attached refused settings []
  refine ⟨after, Session.handsOver_of_standing_eq standing, ?_⟩
  have attempted : attempt (execute settings statement []) session =
      (.ok (.error (.statement unwritable)), after) := by
    rw [attempt, ran]
  rw [executeFrom, bind_run_of_eq_ok attempted]
  rfl

/-- The part of a restore behind the choice of a database. -/
def executeAll (settings : Settings) (statements : List Text) : Blocking Nat := do
  log .restore .info (Notice.restoring statements.length)
  executeFrom settings statements.length 0 statements
  log .restore .info (Notice.restored statements.length)
  return statements.length

theorem executeAll_run_of_passing (settings : Settings) {statements : List Text}
    (ready : session.Ready) (passes : session.Passes statements) :
    ∃ after, session.HandsOver after statements ∧
      executeAll settings statements session = (.ok statements.length, after) := by
  obtain ⟨noted, noteRun, noteStanding⟩ :=
    log_run .restore .info (Notice.restoring statements.length) session
  have noteHands := Session.handsOver_of_standing_eq noteStanding
  obtain ⟨executed, hands, continues⟩ :=
    executeFrom_append_run settings statements.length 0 (noteHands.ready ready)
      (noteHands.passes passes)
  have executedRun : executeFrom settings statements.length 0 statements noted =
      (.ok (), executed) := by
    simpa [executeFrom, done] using continues []
  obtain ⟨after, endRun, endStanding⟩ :=
    log_run .restore .info (Notice.restored statements.length) executed
  have wholeHands := (noteHands.trans hands).trans (Session.handsOver_of_standing_eq endStanding)
  refine ⟨after, by simpa using wholeHands, ?_⟩
  rw [executeAll, bind_run_of_eq_ok noteRun, bind_run_of_eq_ok executedRun,
    bind_run_of_eq_ok endRun, pure_apply]

/-- What stops the execution of a script behind statements that pass stops all of it. -/
theorem executeAll_run_of_stopping (settings : Settings) (passed rest last : List Text)
    (failure : Failure) (ready : session.Ready) (passes : session.Passes passed)
    (stops : ∀ between, session.HandsOver between passed → ∃ after, between.HandsOver after last ∧
      executeFrom settings (passed ++ rest).length passed.length rest between =
        (.error failure, after)) :
    ∃ after, session.HandsOver after (passed ++ last) ∧
      executeAll settings (passed ++ rest) session = (.error failure, after) := by
  generalize count : (passed ++ rest).length = total at stops
  obtain ⟨noted, noteRun, noteStanding⟩ :=
    log_run .restore .info (Notice.restoring total) session
  have noteHands := Session.handsOver_of_standing_eq noteStanding
  obtain ⟨between, hands, continues⟩ :=
    executeFrom_append_run settings total 0 (noteHands.ready ready) (noteHands.passes passes)
  have passedHand : session.HandsOver between passed := noteHands.trans hands
  obtain ⟨after, lastHands, stopped⟩ := stops between passedHand
  refine ⟨after, passedHand.trans lastHands, ?_⟩
  have executed := continues rest
  rw [Nat.zero_add, stopped] at executed
  rw [executeAll, count, bind_run_of_eq_ok noteRun, bind_run_of_eq_error executed]

/-- Behind a database that can be chosen a restore executes its statements. -/
theorem restore_run_of_chosen (settings : Settings) (script : Text) {database : Option Text}
    (ready : session.Ready) (passes : session.Passes (Statement.choice database)) :
    ∃ between, session.HandsOver between (Statement.choice database) ∧
      restore settings script database session =
        executeAll settings (Script.statements script) between := by
  unfold restore Statement.choice at *
  cases named : database.filter (!·.isEmpty) with
  | none => exact ⟨session, Session.handsOver_of_standing_eq rfl, rfl⟩
  | some name =>
      obtain ⟨result, between, ran, hands⟩ :=
        execute_ready_run ready (passes.sendable (Statement.use name) (by simp [named])) settings
      rw [passes.faultless 0 (by simp [named])] at ran
      have used : useDatabase settings name session = (.ok (), between) := by
        rw [useDatabase, bind_run_of_eq_ok ran, pure_apply]
      refine ⟨between, hands, ?_⟩
      simp only
      rw [bind_run_of_eq_ok used]
      rfl

/-- A database that cannot be chosen stops a restore before its statements. -/
theorem restore_run_of_unchosen (script : Text) {database : Option Text} {failure : Failure}
    {after : Session} (chosen : statement ∈ Statement.choice database)
    (failed : execute settings statement [] session = (.error failure, after)) :
    restore settings script database session = (.error failure, after) := by
  obtain ⟨name, named, rfl⟩ := Statement.mem_choice_iff.mp chosen
  have refused : useDatabase settings name session = (.error failure, after) := by
    rw [useDatabase, bind_run_of_eq_error failed]
  unfold restore
  simp only [named]
  rw [bind_run_of_eq_error refused]

end Blocking

namespace Session

/-- A restore hands over the choice of its database and the statements of its script, in
order, once each, up to the first one that fails. Without a failure it counts its statements. A
fault of a statement is reported with the place of the statement and the statement; a fault of
the choice ends the restore before the first statement. A statement that cannot be sent ends the
restore too, but it is not handed over and its failure is not reported. -/
theorem restore_stops_at_first_failure {session : Session} (ready : session.Ready)
    (waiting : Waiting) (settings : Settings) (script : Text) (database : Option Text) :
    let statements := Script.statements script
    let chosen := Statement.choice database
    let ran := session.perform waiting settings (.restore script database)
    (session.Passes (chosen ++ statements) →
      ran.1 = .ok (.count statements.length) ∧
        ran.2.wire.handed = session.wire.handed ++ (chosen ++ statements).filterMap bare?) ∧
    (∀ statement ∈ chosen,
      (∀ fault, statement.hasLone = false → session.faultAt? 0 = some fault →
        ran.1 = .error (.ofFault fault) ∧
          ran.2.wire.handed = session.wire.handed ++ [statement].filterMap bare?) ∧
      ∀ unwritable, Prepared.ofText statement = .error unwritable →
        ran.1 = .error (.statement unwritable) ∧ ran.2.wire.handed = session.wire.handed) ∧
    ∀ (index : Nat) (below : index < statements.length),
      session.Passes (chosen ++ statements.take index) →
      (∀ fault, statements[index].hasLone = false →
        session.faultAt? (chosen.length + index) = some fault →
        ran.1 = .error (.restore index statements.length statements[index] (.ofFault fault)) ∧
          ran.2.wire.handed =
            session.wire.handed ++ (chosen ++ statements.take (index + 1)).filterMap bare?) ∧
      ∀ unwritable, Prepared.ofText statements[index] = .error unwritable →
        ran.1 = .error (.statement unwritable) ∧
          ran.2.wire.handed =
            session.wire.handed ++ (chosen ++ statements.take index).filterMap bare? := by
  intro statements chosen ran
  have ranEq : ran = ((Blocking.restore settings script database session).1.map .count,
      (Blocking.restore settings script database session).2) :=
    perform_restore session waiting settings script database
  refine ⟨fun passes => ?_, fun statement inChoice => ⟨fun fault sendable fails => ?_,
    fun unwritable refused => ?_⟩, fun index below passes => ?_⟩
  · obtain ⟨between, chosenHand, continues⟩ :=
      Blocking.restore_run_of_chosen settings script ready passes.left
    obtain ⟨after, hands, executed⟩ :=
      Blocking.executeAll_run_of_passing settings (chosenHand.ready ready)
        (chosenHand.passes passes)
    rw [ranEq, continues, executed]
    exact ⟨rfl, (chosenHand.trans hands).handed⟩
  · obtain ⟨result, after, failed, hands⟩ := Blocking.execute_ready_run ready sendable settings
    rw [fails] at failed
    rw [ranEq, Blocking.restore_run_of_unchosen script inChoice failed]
    exact ⟨rfl, hands.handed⟩
  · obtain ⟨after, failed, standing⟩ :=
      Blocking.execute_run_of_unwritable ready.attached refused settings []
    rw [ranEq, Blocking.restore_run_of_unchosen script inChoice failed]
    exact ⟨rfl, congrArg Standing.handed standing⟩
  · obtain ⟨between, chosenHand, continues⟩ :=
      Blocking.restore_run_of_chosen settings script ready passes.left
    -- The script is cut at the statement that fails.
    have cut : statements.take index ++ statements[index] :: statements.drop (index + 1) =
        statements := by
      rw [List.getElem_cons_drop, List.take_append_drop]
    have length : (statements.take index).length = index :=
      List.length_take_of_le (Nat.le_of_lt below)
    have stopping := fun last failure =>
      Blocking.executeAll_run_of_stopping settings (statements.take index)
        (statements[index] :: statements.drop (index + 1)) last failure
        (chosenHand.ready ready) (chosenHand.passes passes)
    rw [cut, length] at stopping
    refine ⟨fun fault sendable fails => ?_, fun unwritable refused => ?_⟩
    · obtain ⟨after, hands, stopped⟩ := stopping [statements[index]] _ fun passed passedHand =>
        Blocking.executeFrom_cons_run_of_fault settings _ _
          (passedHand.ready (chosenHand.ready ready)) sendable
          (((chosenHand.trans passedHand).faultAt? 0).trans (by simpa [length] using fails)) _
      rw [← List.take_succ_eq_append_getElem below] at hands
      rw [ranEq, continues, stopped]
      exact ⟨rfl, (chosenHand.trans hands).handed⟩
    · obtain ⟨after, hands, stopped⟩ := stopping [] _ fun passed passedHand =>
        Blocking.executeFrom_cons_run_of_unwritable settings _ _
          (passedHand.ready (chosenHand.ready ready)) refused _
      rw [List.append_nil] at hands
      rw [ranEq, continues, stopped]
      exact ⟨rfl, (chosenHand.trans hands).handed⟩

/-- The fault of a connection that is gone. -/
def lostConnection : Fault :=
  .client .operational (some 2013) none (text "Lost connection")

/-- A session in which the rows of the third statement cannot be fetched. -/
def losingConnection : Session :=
  { context := { attached := true }
    wire :=
      { script :=
          { cursors :=
              [{}, {},
                { reply := { description := some [] }, fetchFault := some lostConnection }] } } }

/-- A script of three statements with delimiters in quotes and in a comment. -/
def threeStatements : Text :=
  text "SET a = ';';\n-- one; two\nSHOW `t``;`; DROP TABLE t"

/-- Behind the choice of a database the second of three statements is the last one handed
over. -/
theorem restore_stops_at_first_failure_second :
    losingConnection.Ready ∧
    Script.statements threeStatements =
      [text "SET a = ';'", text "SHOW `t``;`", text "DROP TABLE t"] ∧
    losingConnection.Passes [text "USE `shop`", text "SET a = ';'"] ∧
    losingConnection.faultAt? (1 + 1) = some lostConnection ∧
    (losingConnection.perform .suspended {}
        (.restore threeStatements (some (text "shop")))).1 =
      .error (.restore 1 3 (text "SHOW `t``;`") (.ofFault lostConnection)) ∧
    (losingConnection.perform .suspended {}
        (.restore threeStatements (some (text "shop")))).2.wire.handed =
      [text "USE `shop`", text "SET a = ';'", text "SHOW `t``;`"].filterMap bare? := by
  have ready : losingConnection.Ready := by
    refine ⟨rfl, fun cursor member => ?_⟩
    simp only [losingConnection, List.mem_cons, List.not_mem_nil, or_false] at member
    rcases member with rfl | rfl | rfl
    · exact ⟨rfl, rfl, by decide⟩
    · exact ⟨rfl, rfl, by decide⟩
    · exact ⟨rfl, rfl, by decide⟩
  have statements : Script.statements threeStatements =
      [text "SET a = ';'", text "SHOW `t``;`", text "DROP TABLE t"] := by decide +kernel
  have below : 1 < (Script.statements threeStatements).length := by
    rw [statements]
    decide
  have passes : losingConnection.Passes [text "USE `shop`", text "SET a = ';'"] :=
    ⟨by decide +kernel, by decide⟩
  have fails : losingConnection.faultAt? (1 + 1) = some lostConnection := by decide
  have stops := (restore_stops_at_first_failure ready .suspended {} threeStatements
    (some (text "shop"))).2.2 1 below
  simp only [statements] at stops
  have sendable : (text "SHOW `t``;`").hasLone = false := by decide +kernel
  have stopped := (stops passes).1 lostConnection sendable fails
  exact ⟨ready, statements, passes, fails, stopped.1, stopped.2⟩

/-- A session on a connection that answers everything without a fault. -/
def faultlessConnection : Session :=
  { context := { attached := true }, wire := { script := {} } }

/-- A statement with a lone surrogate in its literal. -/
def loneStatement : Text :=
  text "SELECT '" ++ [.lone { code := 0xD800, isLone := by decide }, .char '\'']

/-- The only statement of a script cannot be sent: no fault of the server stops the restore, and
what it ends with is not a failure of its own with the place of the statement. -/
theorem restore_loneStatement :
    faultlessConnection.Ready ∧
    Script.statements loneStatement = [loneStatement] ∧
    (∀ place, faultlessConnection.faultAt? place = none) ∧
    ∃ unwritable,
      (faultlessConnection.perform .blocking {} (.restore loneStatement none)).1 =
        .error (.statement unwritable) ∧
      (Failure.statement unwritable).isOwn = false ∧
      (faultlessConnection.perform .blocking {} (.restore loneStatement none)).2.wire.handed =
        [] := by
  have ready : faultlessConnection.Ready := ⟨rfl, by simp [faultlessConnection]⟩
  have statements : Script.statements loneStatement = [loneStatement] := by decide +kernel
  obtain ⟨unwritable, refused⟩ := Prepared.ofText_eq_error_iff.mpr
    (show loneStatement.hasLone = true by decide +kernel)
  obtain ⟨after, hands, stopped⟩ := Blocking.executeAll_run_of_stopping {} [] [loneStatement] []
    (.statement unwritable) ready ⟨by simp, by simp⟩ fun between hands =>
      Blocking.executeFrom_cons_run_of_unwritable {} _ _ (hands.ready ready) refused []
  have ran : faultlessConnection.perform .blocking {} (.restore loneStatement none) =
      (.error (.statement unwritable), after) := by
    have restored : Blocking.restore {} loneStatement none faultlessConnection =
        (.error (.statement unwritable), after) := by
      rw [← stopped, ← statements]
      rfl
    rw [perform_restore, restored]
    rfl
  refine ⟨ready, statements, fun _ => rfl, unwritable, ?_, rfl, ?_⟩
  · rw [ran]
  · rw [ran]
    exact hands.handed

end Session

end SqlDump
