/-!
# Types of client values

A client library hands back values of many types. A type has a name, which
messages show, and an ancestry: the types as which its values may be treated,
from the most specific one to the one that covers everything. Programs add types
of their own on top of the known ones.
-/

namespace SqlDump.Client

/-- The type of a client value. -/
inductive ValueType where
  | nothing
  | truth
  | integer
  | real
  | text
  | octets
  | octetBuffer
  | octetView
  | decimal
  | uuid
  | mapping
  | orderedMapping
  | sequence
  | tuple
  | set
  | frozenSet
  | date
  | moment
  | clock
  | duration
  /-- The type that covers all others. -/
  | anything
  /-- A type of a program's own on top of another one. -/
  | derived (name : String) (base : ValueType)
  deriving DecidableEq, Repr

namespace ValueType

def name : ValueType → String
  | .nothing => "NoneType"
  | .truth => "bool"
  | .integer => "int"
  | .real => "float"
  | .text => "str"
  | .octets => "bytes"
  | .octetBuffer => "bytearray"
  | .octetView => "memoryview"
  | .decimal => "Decimal"
  | .uuid => "UUID"
  | .mapping => "dict"
  | .orderedMapping => "OrderedDict"
  | .sequence => "list"
  | .tuple => "tuple"
  | .set => "set"
  | .frozenSet => "frozenset"
  | .date => "date"
  | .moment => "datetime"
  | .clock => "time"
  | .duration => "timedelta"
  | .anything => "object"
  | .derived name _ => name

/-- The name of a type with the module it belongs to. -/
def fullName (type : ValueType) : String :=
  match type with
  | .decimal => "decimal." ++ type.name
  | .orderedMapping => "collections." ++ type.name
  | .date | .moment | .clock | .duration => "datetime." ++ type.name
  | _ => type.name

/-- The types that no program has made its own. -/
def known : List ValueType :=
  [.nothing, .truth, .integer, .real, .text, .octets, .octetBuffer, .octetView, .decimal, .uuid,
    .mapping, .orderedMapping, .sequence, .tuple, .set, .frozenSet, .date, .moment, .clock,
    .duration, .anything]

def ofName? (name : String) : Option ValueType :=
  known.find? fun type => type.name = name

/-- The types as which a value of a type may be treated, most specific first. -/
def ancestry : ValueType → List ValueType
  | .truth => [.truth, .integer, .anything]
  | .orderedMapping => [.orderedMapping, .mapping, .anything]
  | .moment => [.moment, .date, .anything]
  | .anything => [.anything]
  | .derived name base => .derived name base :: base.ancestry
  | type => [type, .anything]

end ValueType

end SqlDump.Client
