import SqlDump.Adapter.Registry
import SqlDump.Client.Display
import SqlDump.Client.Json
import SqlDump.Client.Order
import SqlDump.Literal.Decode

/-!
# Adapters from client values to stored values

An adapter claims types of client values and turns their values into stored
ones. Texts, exact decimals, identifiers, JSON and sets become octets; moments
with a UTC offset become moments in UTC; a hint from the column decides the
precision of floating point numbers.
-/

namespace SqlDump

open Client (Raw ValueType JsonError OrderError)

/-- Why a client value has no stored value. -/
inductive AdaptError where
  | noAdapter (typeName : String)
  | integerOutOfRange (number : Int)
  | json (error : JsonError)
  /-- A member of a set is no text. -/
  | notText (index : Nat) (typeName : String)
  /-- Two members of a set have no order. -/
  | notOrdered (error : OrderError)
  | moment (error : MomentError)
  /-- A text has symbols without octets. -/
  | unwritable (failure : Encoding.Unwritable)
  deriving DecidableEq, Repr

def AdaptError.message : AdaptError → Text
  | .noAdapter typeName => text "No adapter for value of type " ++ text typeName
  | .integerOutOfRange number => Literal.integerOutOfRangeMessage number
  | .json error => error.message
  | .notText index typeName =>
      text "sequence item " ++ Digit.text (digits index) ++ text ": expected str instance, " ++
        text typeName ++ text " found"
  | .notOrdered error => error.message
  | .moment error => error.message
  | .unwritable failure => failure.message

/-- An adapter: the types it claims, and its conversion under a column's kind. -/
structure Adapter where
  name : String
  claims : List ValueType
  convert : Option Kind → Raw → Except AdaptError Value

namespace Adapter

/-- The octets of a text in UTF-8. -/
def storeText (content : Text) : Except AdaptError Value :=
  match Encoding.utf8.encode content with
  | .ok octets => .ok (.bytes octets)
  | .error failure => .error (.unwritable failure)

/-- The error for a value that an adapter was not made for. -/
def refuse (raw : Raw) : Except AdaptError Value :=
  .error (.noAdapter raw.typeName)

def storeInteger (number : Int) : Except AdaptError Value :=
  match WideInteger.ofInt? number with
  | some wide => .ok (.integer wide)
  | none => .error (.integerOutOfRange number)

/-- Integers, and truth values as one and zero. -/
def integer : Adapter where
  name := "integer"
  claims := [.integer]
  convert _ raw :=
    match raw.plain with
    | .integer number => storeInteger number
    | .truth value => storeInteger (if value then 1 else 0)
    | _ => refuse raw

/-- Floating point numbers, of single precision where the column says so. -/
def real : Adapter where
  name := "real"
  claims := [.real]
  convert kind raw :=
    match raw.plain with
    | .real number => .ok (if kind = some .float then .float number else .double number)
    | _ => refuse raw

/-- Octets in all forms. -/
def octets : Adapter where
  name := "octets"
  claims := [.octets, .octetBuffer, .octetView]
  convert _ raw :=
    match raw.plain with
    | .octets _ content => .ok (.bytes content)
    | _ => refuse raw

/-- Texts, as their UTF-8 octets. -/
def content : Adapter where
  name := "text"
  claims := [.text]
  convert _ raw :=
    match raw.plain with
    | .text content => storeText content
    | _ => refuse raw

/-- Decimal numbers, as their exact text. -/
def decimal : Adapter where
  name := "decimal"
  claims := [.decimal]
  convert _ raw :=
    match raw.plain with
    | .decimal number => storeText number.display
    | _ => refuse raw

/-- Universally unique identifiers, as their text. -/
def uuid : Adapter where
  name := "uuid"
  claims := [.uuid]
  convert _ raw :=
    match raw.plain with
    | .uuid identifier => storeText (Client.displayUuid identifier)
    | _ => refuse raw

/-- Mappings and sequences, as JSON text. -/
def json : Adapter where
  name := "json"
  claims := [.mapping, .sequence]
  convert _ raw :=
    match Client.Json.ofRaw raw with
    | .ok content => storeText content
    | .error error => .error (.json error)

/-- The text of a member that is one. -/
def memberText? (member : Raw) : Option Text :=
  match member.plain with
  | .text content => some content
  | _ => none

/-- Texts in ascending order. -/
def sortTexts (texts : List Text) : List Text :=
  texts.mergeSort fun left right => !Text.before right left

/-- The error of a set that does not consist of texts: its members have no order, or
the first of them in ascending order is no text. -/
def notTextError (members : List Raw) : AdaptError :=
  match Client.sortMembers members with
  | .error error => .notOrdered error
  | .ok sorted => .notText 0 ((sorted.head?.map Raw.fullTypeName).getD "")

/-- The text of a set: its members in ascending order with commas between them. -/
def setText (members : List Raw) : Except AdaptError Text :=
  match members.mapM memberText? with
  | some texts => .ok ((text ",").intercalate (sortTexts texts))
  | none => .error (notTextError members)

/-- Sets, as the list of their members. -/
def set : Adapter where
  name := "set"
  claims := [.set, .frozenSet]
  convert _ raw :=
    match raw.plain with
    | .set _ members =>
        match setText members with
        | .ok content => storeText content
        | .error error => .error error
    | _ => refuse raw

/-- Dates and moments; moments with a known offset are moved to UTC. -/
def moment : Adapter where
  name := "moment"
  claims := [.moment, .date]
  convert _ raw :=
    match raw.plain with
    | .moment moment none => .ok (.dateTime moment)
    | .moment moment (some offset) =>
        match moment.toUtc offset with
        | .ok utc => .ok (.dateTime utc)
        | .error error => .error (.moment error)
    | .date date => .ok (.dateTime (.ofDate date))
    | _ => refuse raw

/-- Durations and clock times. -/
def span : Adapter where
  name := "span"
  claims := [.duration, .clock]
  convert _ raw :=
    match raw.plain with
    | .duration duration => .ok (.time (.ofDuration duration))
    | .clock hour minute second microsecond =>
        .ok (.time
          { negative := false, days := 0, hours := hour, minutes := minute, seconds := second
            microseconds := microsecond })
    | _ => refuse raw

/-- The adapters that every registry starts with. -/
def standard : List Adapter :=
  [integer, real, octets, content, decimal, uuid, json, set, moment, span]

end Adapter

abbrev Adapters := Registry ValueType Adapter

namespace Adapters

def ofList (adapters : List Adapter) : Adapters :=
  Registry.ofHandlers Adapter.claims adapters

/-- The registry of the standard adapters. -/
def standard : Adapters :=
  ofList Adapter.standard

def add (adapters : Adapters) (adapter : Adapter) : Adapters :=
  adapters.register Adapter.claims adapter

def find? (adapters : Adapters) (type : ValueType) : Option Adapter :=
  Registry.find? adapters type.ancestry

/-- The stored value of a client value. Nothing becomes NULL, and stored values
stay as they are. -/
def store (adapters : Adapters) (kind : Option Kind) (raw : Raw) : Except AdaptError Value :=
  match raw with
  | .nothing => .ok .null
  | .stored value => .ok value
  | _ =>
      match adapters.find? raw.type with
      | some adapter => adapter.convert kind raw
      | none => .error (.noAdapter raw.typeName)

end Adapters

/-- The stored value of a client value under the standard adapters. -/
def Value.ofRaw (kind : Option Kind) (raw : Raw) : Except AdaptError Value :=
  Adapters.standard.store kind raw

end SqlDump
