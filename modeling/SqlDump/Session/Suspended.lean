import SqlDump.Session.Basic

/-!
# Suspended operations

A suspended operation never waits. It runs up to its next call, hands the call to
an event loop together with what it will do with the answer, and is resumed when
the answer is there. Only the event loop touches the wire.
-/

namespace SqlDump

open Server

/-- An outcome, or a call with what follows its answer. -/
inductive Suspension (α : Type) where
  | finished (outcome : α)
  | waiting (request : Request) (resume : request.Answer → Suspension α)

namespace Suspension

variable {α β : Type}

/-- Goes on with the outcome of a suspension. -/
def andThen : Suspension α → (α → Suspension β) → Suspension β
  | .finished outcome, next => next outcome
  | .waiting request resume, next => .waiting request fun answer => (resume answer).andThen next

def run : Suspension α → Wire → α × Wire
  | .finished outcome, wire => (outcome, wire)
  | .waiting request resume, wire => (resume (wire.call request).1).run (wire.call request).2

@[simp] theorem run_finished (outcome : α) (wire : Wire) :
    (finished outcome).run wire = (outcome, wire) := rfl

@[simp] theorem run_waiting (request : Request) (resume : request.Answer → Suspension α)
    (wire : Wire) :
    (waiting request resume).run wire =
      (resume (wire.call request).1).run (wire.call request).2 := rfl

/-- Running what goes on with an outcome runs one part after the other. -/
@[simp] theorem run_andThen (suspension : Suspension α) (next : α → Suspension β) (wire : Wire) :
    (suspension.andThen next).run wire =
      (next (suspension.run wire).1).run (suspension.run wire).2 := by
  induction suspension generalizing wire with
  | finished outcome => rfl
  | waiting request resume hypothesis => simp [andThen, hypothesis]

end Suspension

/-- A suspended operation. -/
def Suspended (α : Type) : Type :=
  Context → Suspension (Except Failure α × Context)

namespace Suspended

variable {α β : Type}

def run (operation : Suspended α) (session : Session) : Except Failure α × Session :=
  let ((outcome, context), wire) := (operation session.context).run session.wire
  (outcome, { context, wire })

/-- The operation that does nothing. -/
def done (value : α) : Suspended α := fun context => .finished (.ok value, context)

def fail (failure : Failure) : Suspended α := fun context => .finished (.error failure, context)

/-- One operation after another; the second one only where the first succeeds. -/
def andThen (first : Suspended α) (second : α → Suspended β) : Suspended β := fun context =>
  (first context).andThen fun
    | (.ok value, after) => second value after
    | (.error failure, after) => .finished (.error failure, after)

instance : Monad Suspended where
  pure := done
  bind := andThen

/-- The result of an operation, also where it is a failure. -/
def attempt (operation : Suspended α) : Suspended (Except Failure α) := fun context =>
  (operation context).andThen fun (outcome, after) => .finished (.ok outcome, after)

/-- The value of a computation that can fail. -/
def ofExcept : Except Failure α → Suspended α
  | .ok value => done value
  | .error failure => fail failure

def context : Suspended Context := fun context => .finished (.ok context, context)

/-- Changes the context of the session. -/
def modify (change : Context → Context) : Suspended Unit := fun context =>
  .finished (.ok (), change context)

def log (source : LogSource) (level : LogLevel) (message : Text) : Suspended Unit :=
  modify (·.log source level message)

/-- Suspends until the answer to a call is there. -/
def await (request : Request) : Suspended request.Answer := fun context =>
  .waiting request fun answer => .finished (.ok answer, context)

/-! ## Operations on the server -/

/-- Goes on only after an answer without a fault. -/
def orFail (failure : Fault → Failure) : Except Fault α → Suspended α
  | .ok value => done value
  | .error fault => fail (failure fault)

/-- Sets the time zone of a new connection. That it cannot be set is no failure. -/
def setTimezone (settings : Settings) : Suspended Unit := do
  orFail .ofConnect (← await .openCursor)
  let answer ← await (.execute (.text (Query.timezone settings)) [])
  if let .error fault := answer then
    if fault.isClient then log .backend .warning (Notice.timezoneRefused settings fault)
  orFail .ofConnect (← await .closeCursor)
  if let .error fault := answer then
    if !fault.isClient then fail (.raised fault)

/-- Makes a connection and attaches it. -/
def connect (settings : Settings) : Suspended Unit := do
  orFail .ofConnect (← await (.connect settings.connectionArguments))
  modify ({ · with attached := true })
  if settings.timezone.isTruthy then setTimezone settings
  log .backend .info (Notice.connected settings)

/-- Closes the attached connection. -/
def disconnect : Suspended Unit := do
  if (← context).attached then
    orFail .raised (← await .disconnect)
    modify ({ · with attached := false })
    log .backend .info Notice.disconnected

/-- Makes a connection where none is attached. -/
def ensureConnection (settings : Settings) : Suspended Unit := do
  if !(← context).attached then
    log .backend .debug Notice.reconnecting
    connect settings

/-- The result of a statement on the open cursor. -/
def fetch (statement : Prepared) (parameters : List Client.Raw) :
    Suspended (Except Fault Result) := do
  match ← await (.execute statement parameters) with
  | .error fault => return .error fault
  | .ok reply =>
      match reply.description with
      | none => return reply.result [] []
      | some columns =>
          match ← await .fetchAll with
          | .error fault => return .error fault
          | .ok rows => return reply.result columns rows

/-- Executes a statement on a cursor of its own, which is closed whatever happens. -/
def execute (settings : Settings) (statement : Text) (parameters : List Client.Raw) :
    Suspended Result := do
  ensureConnection settings
  log .backend .debug (Notice.executing statement)
  let prepared ← ofExcept ((Prepared.ofText statement).mapError .statement)
  orFail .raised (← await .openCursor)
  let fetched ← fetch prepared parameters
  if let .error fault := fetched then
    if fault.isClient then log .backend .error (Notice.failed fault)
  orFail .raised (← await .closeCursor)
  let result ← orFail .ofStatement fetched
  log .backend .debug (Notice.completed result)
  return result

def useDatabase (settings : Settings) (database : Text) : Suspended Unit := do
  let _ ← execute settings (Statement.use database) []

def listTables (settings : Settings) (database : Text) : Suspended (List Text) := do
  ofExcept (tableNames (← execute settings (Query.tables database) []))

/-- The definition of a table, where the server shows it. -/
def showDefinition (settings : Settings) (database table : Text) : Suspended (Option Text) := do
  ofExcept (definitionIn (← execute settings (Query.definition database table) []))

def fetchTable (settings : Settings) (database table : Text) : Suspended Result :=
  execute settings (Query.rows database table) []

end Suspended

end SqlDump
