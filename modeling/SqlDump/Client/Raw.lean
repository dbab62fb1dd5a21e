import SqlDump.Client.ValueType
import SqlDump.Number.DecimalNumber
import SqlDump.Value

/-!
# Client values

The values that a client library hands back for the columns of a row, before
they are stored values. Mappings keep the order of their entries; a repeated key
keeps its first place and takes the last value. A set has each member once.
-/

namespace SqlDump.Client

/-- The three forms of octets. -/
inductive OctetForm where
  | plain
  | buffer
  | view
  deriving DecidableEq, Repr

/-- A client value. -/
inductive Raw where
  | nothing
  | truth (value : Bool)
  | integer (number : Int)
  | real (number : Binary64)
  | text (content : Text)
  | octets (form : OctetForm) (content : Octets)
  | decimal (number : DecimalNumber)
  | uuid (content : Octets)
  | mapping (ordered : Bool) (entries : List (Raw × Raw))
  | sequence (items : List Raw)
  | tuple (items : List Raw)
  | set (frozen : Bool) (members : List Raw)
  | date (date : Date)
  /-- A moment, with the seconds it is ahead of UTC where that is known. -/
  | moment (moment : Moment) (offset : Option Int)
  | clock (hour minute second microsecond : Int)
  | duration (duration : Duration)
  /-- A value that is stored already. -/
  | stored (value : Value)
  /-- A value of a program's own type on top of another value. -/
  | derived (name : String) (base : Raw)
  /-- An integer that a program has given a name in a type of its own. -/
  | named (typeName name : String) (number : Int)
  /-- A value of a type that only its name is known of. -/
  | unknown (name : String)
  deriving Repr, Inhabited

def storedTypeName : Kind → String
  | .null => "Null"
  | .integer => "Integer"
  | .float => "Float"
  | .double => "Double"
  | .bytes => "ByteString"
  | .dateTime => "DateTime"
  | .time => "Time"

namespace Raw

def type : Raw → ValueType
  | .nothing => .nothing
  | .truth _ => .truth
  | .integer _ => .integer
  | .real _ => .real
  | .text _ => .text
  | .octets .plain _ => .octets
  | .octets .buffer _ => .octetBuffer
  | .octets .view _ => .octetView
  | .decimal _ => .decimal
  | .uuid _ => .uuid
  | .mapping false _ => .mapping
  | .mapping true _ => .orderedMapping
  | .sequence _ => .sequence
  | .tuple _ => .tuple
  | .set false _ => .set
  | .set true _ => .frozenSet
  | .date _ => .date
  | .moment _ _ => .moment
  | .clock _ _ _ _ => .clock
  | .duration _ => .duration
  | .stored value => .derived (storedTypeName value.kind) .anything
  | .derived name base => .derived name base.type
  | .named typeName _ _ => .derived typeName .integer
  | .unknown name => .derived name .anything

def typeName (raw : Raw) : String :=
  raw.type.name

/-- The name of the type of a value with the module it belongs to. -/
def fullTypeName (raw : Raw) : String :=
  raw.type.fullName

/-- The value under all types of a program's own. -/
def plain : Raw → Raw
  | .derived _ base => base.plain
  | .named _ _ number => .integer number
  | raw => raw

end Raw

end SqlDump.Client
