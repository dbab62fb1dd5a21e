import SqlDump.Client.Json
import SqlDump.Client.Key
import SqlDump.Settings.Environment

/-!
# Settings by their names

Settings are given by names, and the options among them in any form that has
pairs of keys and values. A name that there is no setting for is refused before
anything else is looked at. The options are read last, because what they are
given in is only looked at when a connection needs them.
-/

namespace SqlDump

open Client (Raw KeyError)

/-- Why named settings cannot be used. -/
inductive FieldError where
  /-- There is no setting of the name. -/
  | unexpected (name : String)
  /-- The name stands for the settings as a whole, in the given way of making them. -/
  | reserved (maker name : String)
  deriving DecidableEq, Repr

def FieldError.message : FieldError → Text
  | .unexpected name =>
      text ("MySQLConnectionConfig.__init__() got an unexpected keyword argument '" ++ name ++ "'")
  | .reserved maker name =>
      text ("MySQLConnectionConfig." ++ maker ++ "() got multiple values for argument '" ++ name ++
        "'")

/-- Why a value has no options. -/
inductive OptionsError where
  /-- The value has no parts. -/
  | notIterable (typeName : String)
  /-- A part has no parts of its own. -/
  | notSequence (place : Nat)
  /-- A part is no pair. -/
  | notPair (place count : Nat)
  | key (error : KeyError)
  deriving DecidableEq, Repr

def OptionsError.message : OptionsError → Text
  | .notIterable typeName => text "'" ++ text typeName ++ text "' object is not iterable"
  | .notSequence place =>
      text "cannot convert dictionary update sequence element #" ++ Digit.text (digits place) ++
        text " to a sequence"
  | .notPair place count =>
      text "dictionary update sequence element #" ++ Digit.text (digits place) ++
        text " has length " ++ Digit.text (digits count) ++ text "; 2 is required"
  | .key error => error.message

namespace Options

/-- The parts of a value: the items of a sequence, the symbols of a text, the keys
of a mapping. -/
def parts? (raw : Raw) : Option (List Raw) :=
  match raw.plain with
  | .sequence items | .tuple items | .set _ items => some items
  | .text content => some (content.map fun symbol => .text [symbol])
  | .mapping _ entries => some (entries.map Prod.fst)
  | _ => none

/-- Puts the parts from a place on into entries, each of them as a pair. -/
def putParts (entries : List (Raw × Raw)) (place : Nat) :
    List Raw → Except OptionsError (List (Raw × Raw))
  | [] => .ok entries
  | part :: rest =>
      match parts? part with
      | none => .error (.notSequence place)
      | some [key, value] =>
          match key.keyError? with
          | some error => .error (.key error)
          | none => putParts (Raw.insertEntry entries key value) (place + 1) rest
      | some items => .error (.notPair place items.length)

/-- The entries of a value that is a mapping or consists of pairs. -/
def entries (raw : Raw) : Except OptionsError (List (Raw × Raw)) :=
  match raw.plain with
  | .mapping _ found => .ok found
  | _ =>
      match parts? raw with
      | some parts => putParts [] 0 parts
      | none => .error (.notIterable raw.fullTypeName)

def nameOf (key : Raw) : Text :=
  match Client.Json.keyContent key with
  | .ok name => name
  | .error _ => []

/-- The options in a value. -/
def read (raw : Raw) : Except OptionsError (List (Text × Raw)) := do
  return (← entries raw).map fun entry => (nameOf entry.1, entry.2)

end Options

/-- Settings with options that are not read yet. -/
structure Settings.Draft where
  settings : Settings := {}
  options : Raw := .mapping false []
  deriving Repr

namespace Settings.Draft

def withField (draft : Draft) (field : String × Raw) : Except FieldError Draft :=
  if field.1 = "self" then .error (.reserved "__init__" field.1)
  else if field.1 = "options" then .ok { draft with options := field.2 }
  else
    match draft.settings.withSetting? field.1 field.2 with
    | some settings => .ok { draft with settings }
    | none => .error (.unexpected field.1)

def withFields (draft : Draft) (fields : List (String × Raw)) : Except FieldError Draft :=
  fields.foldlM withField draft

/-- The settings with their options. -/
def complete (draft : Draft) : Except OptionsError Settings := do
  return { draft.settings with options := ← Options.read draft.options }

end Settings.Draft

/-- Why the settings of an environment cannot be used. -/
inductive EnvironmentError where
  | port (error : Numeral.Error)
  | field (error : FieldError)
  deriving DecidableEq, Repr

def EnvironmentError.message : EnvironmentError → Text
  | .port error => error.message
  | .field error => error.message

/-- The settings that the environment names, overridden by the named ones that have
a value. -/
def Settings.Draft.ofEnvironment (environment : Environment) (overrides : List (String × Raw)) :
    Except EnvironmentError Settings.Draft :=
  if overrides.any fun field => field.1 = "cls" then .error (.field (.reserved "from_env" "cls"))
  else
    match Settings.ofEnvironment environment with
    | .error error => .error (.port error)
    | .ok settings =>
        match withFields { settings } (overrides.filter fun field => hasValue field.2) with
        | .ok draft => .ok draft
        | .error error => .error (.field error)

end SqlDump
