import SqlDump.Session.Basic

/-!
# Blocking operations

A blocking operation waits for each answer before it goes on. It turns a session
into a result or a failure and the session behind it; what it did before a failure
stays done.
-/

namespace SqlDump

open Server

/-- A blocking operation. -/
def Blocking (α : Type) : Type :=
  Session → Except Failure α × Session

namespace Blocking

variable {α β : Type}

def run (operation : Blocking α) (session : Session) : Except Failure α × Session :=
  operation session

/-- The operation that does nothing. -/
def done (value : α) : Blocking α := fun session => (.ok value, session)

def fail (failure : Failure) : Blocking α := fun session => (.error failure, session)

/-- One operation after another; the second one only where the first succeeds. -/
def andThen (first : Blocking α) (second : α → Blocking β) : Blocking β := fun session =>
  match first session with
  | (.ok value, after) => second value after
  | (.error failure, after) => (.error failure, after)

instance : Monad Blocking where
  pure := done
  bind := andThen

@[simp] theorem pure_apply (value : α) (session : Session) :
    (pure value : Blocking α) session = (.ok value, session) := rfl

@[simp] theorem bind_apply (first : Blocking α) (second : α → Blocking β) (session : Session) :
    (first >>= second) session =
      match first session with
      | (.ok value, after) => second value after
      | (.error failure, after) => (.error failure, after) := rfl

/-- The result of an operation, also where it is a failure. -/
def attempt (operation : Blocking α) : Blocking (Except Failure α) := fun session =>
  let (outcome, after) := operation session
  (.ok outcome, after)

/-- The value of a computation that can fail. -/
def ofExcept : Except Failure α → Blocking α
  | .ok value => done value
  | .error failure => fail failure

/-- The context of the session. -/
def context : Blocking Context := fun session => (.ok session.context, session)

/-- Changes the context of the session. -/
def modify (change : Context → Context) : Blocking Unit := fun session =>
  (.ok (), { session with context := change session.context })

def log (source : LogSource) (level : LogLevel) (message : Text) : Blocking Unit :=
  modify (·.log source level message)

/-- Makes a call and waits for its answer. -/
def call (request : Request) : Blocking request.Answer := fun session =>
  let (answer, wire) := session.wire.call request
  (.ok answer, { session with wire })

/-! ## Operations on the server -/

/-- Goes on only after an answer without a fault. -/
def orFail (failure : Fault → Failure) : Except Fault α → Blocking α
  | .ok value => done value
  | .error fault => fail (failure fault)

/-- Sets the time zone of a new connection. That it cannot be set is no failure. -/
def setTimezone (settings : Settings) : Blocking Unit := do
  orFail .ofConnect (← call .openCursor)
  let answer ← call (.execute (.text (Query.timezone settings)) [])
  if let .error fault := answer then
    if fault.isClient then log .backend .warning (Notice.timezoneRefused settings fault)
  orFail .ofConnect (← call .closeCursor)
  if let .error fault := answer then
    if !fault.isClient then fail (.raised fault)

/-- Makes a connection and attaches it. -/
def connect (settings : Settings) : Blocking Unit := do
  orFail .ofConnect (← call (.connect settings.connectionArguments))
  modify ({ · with attached := true })
  if settings.timezone.isTruthy then setTimezone settings
  log .backend .info (Notice.connected settings)

/-- Closes the attached connection. -/
def disconnect : Blocking Unit := do
  if (← context).attached then
    orFail .raised (← call .disconnect)
    modify ({ · with attached := false })
    log .backend .info Notice.disconnected

/-- Makes a connection where none is attached. -/
def ensureConnection (settings : Settings) : Blocking Unit := do
  if !(← context).attached then
    log .backend .debug Notice.reconnecting
    connect settings

/-- The result of a statement on the open cursor. -/
def fetch (statement : Prepared) (parameters : List Client.Raw) :
    Blocking (Except Fault Result) := do
  match ← call (.execute statement parameters) with
  | .error fault => return .error fault
  | .ok reply =>
      match reply.description with
      | none => return reply.result [] []
      | some columns =>
          match ← call .fetchAll with
          | .error fault => return .error fault
          | .ok rows => return reply.result columns rows

/-- Executes a statement on a cursor of its own, which is closed whatever happens. -/
def execute (settings : Settings) (statement : Text) (parameters : List Client.Raw) :
    Blocking Result := do
  ensureConnection settings
  log .backend .debug (Notice.executing statement)
  let prepared ← ofExcept ((Prepared.ofText statement).mapError .statement)
  orFail .raised (← call .openCursor)
  let fetched ← fetch prepared parameters
  if let .error fault := fetched then
    if fault.isClient then log .backend .error (Notice.failed fault)
  orFail .raised (← call .closeCursor)
  let result ← orFail .ofStatement fetched
  log .backend .debug (Notice.completed result)
  return result

def useDatabase (settings : Settings) (database : Text) : Blocking Unit := do
  let _ ← execute settings (Statement.use database) []

def listTables (settings : Settings) (database : Text) : Blocking (List Text) := do
  ofExcept (tableNames (← execute settings (Query.tables database) []))

/-- The definition of a table, where the server shows it. -/
def showDefinition (settings : Settings) (database table : Text) : Blocking (Option Text) := do
  ofExcept (definitionIn (← execute settings (Query.definition database table) []))

def fetchTable (settings : Settings) (database table : Text) : Blocking Result :=
  execute settings (Query.rows database table) []

end Blocking

end SqlDump
