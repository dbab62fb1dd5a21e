import SqlDump.Client.Raw
import SqlDump.Number.Quantity

/-!
# Keys and members

The keys of a mapping and the members of a set are told apart by their value:
numbers of different types with the same value are one key, and so are texts or
octets whatever type a program made of them. Values that can change are no keys,
and no tuple that holds one is.
-/

namespace SqlDump.Client

/-- Why a value cannot be a key or a member. -/
inductive KeyError where
  | changeable (typeName : String)
  /-- A decimal number that signals that it is none. -/
  | signaling
  deriving DecidableEq, Repr

def KeyError.message : KeyError → Text
  | .changeable typeName => text "unhashable type: '" ++ text typeName ++ text "'"
  | .signaling => text "Cannot hash a signaling NaN value"

namespace Raw

/-- The quantity of a value that is a number. -/
def quantity? (raw : Raw) : Option Quantity :=
  match raw.plain with
  | .truth value => some (.ofInt (if value then 1 else 0))
  | .integer number => some (.ofInt number)
  | .real number => some (.ofBinary64 number)
  | .decimal number => some (.ofDecimal number)
  | _ => none

mutual

def keyError? : Raw → Option KeyError
  | .derived _ base => base.keyError?
  | .decimal (.undefined _ true _) => some .signaling
  | .tuple items => firstKeyError? items
  | .mapping false _ => some (.changeable ValueType.mapping.fullName)
  | .mapping true _ => some (.changeable ValueType.orderedMapping.fullName)
  | .sequence _ => some (.changeable ValueType.sequence.fullName)
  | .set false _ => some (.changeable ValueType.set.fullName)
  | .octets .buffer _ => some (.changeable ValueType.octetBuffer.fullName)
  | _ => none

/-- Why the first of the items that cannot be keys cannot be one. -/
def firstKeyError? : List Raw → Option KeyError
  | [] => none
  | item :: rest => item.keyError?.or (firstKeyError? rest)

end

/-- Whether two values without parts are one key. -/
def sameLeaf : Raw → Raw → Bool
  | .nothing, .nothing => true
  | .text left, .text right => left = right
  | .octets _ left, .octets _ right => left = right
  | .uuid left, .uuid right => left = right
  | .date left, .date right => left = right
  | .moment left none, .moment right none => left = right
  | .moment left (some leftOffset), .moment right (some rightOffset) =>
      left.instantAt leftOffset = right.instantAt rightOffset
  | .clock hour minute second microsecond, .clock hour' minute' second' microsecond' =>
      hour = hour' && minute = minute' && second = second' && microsecond = microsecond'
  | .duration left, .duration right => left = right
  | .stored left, .stored right => left.equals right
  | left, right =>
      match left.quantity?, right.quantity? with
      | some leftQuantity, some rightQuantity => leftQuantity.equals rightQuantity
      | _, _ => false

mutual

/-- Whether two values are one key of a mapping or one member of a set. -/
def sameKey : Raw → Raw → Bool
  | .derived _ base, right => base.sameKey right
  | .tuple items, right =>
      match right.plain with
      | .tuple others => sameKeys items others
      | _ => false
  | .set true members, right =>
      match right.plain with
      | .set true others => members.length = others.length && amongKeys members others
      | _ => false
  | left, right => left.sameLeaf right.plain

/-- Whether two lists of values agree item by item. -/
def sameKeys : List Raw → List Raw → Bool
  | [], [] => true
  | left :: leftRest, right :: rightRest => left.sameKey right && sameKeys leftRest rightRest
  | _, _ => false

/-- Whether all values of a list are among those of another one. -/
def amongKeys : List Raw → List Raw → Bool
  | [], _ => true
  | left :: rest, others => others.any (fun other => left.sameKey other) && amongKeys rest others

end

/-- Puts an entry into the entries of a mapping. A key that is there already keeps
its place and takes the value. -/
def insertEntry (entries : List (Raw × Raw)) (key value : Raw) : List (Raw × Raw) :=
  if entries.any fun entry => entry.1.sameKey key then
    entries.map fun entry => if entry.1.sameKey key then (entry.1, value) else entry
  else entries ++ [(key, value)]

/-- The mapping of a list of entries, in which keys may be repeated. -/
def mappingOf (ordered : Bool) (entries : List (Raw × Raw)) : Except KeyError Raw :=
  match firstKeyError? (entries.map Prod.fst) with
  | some error => .error error
  | none =>
      .ok (.mapping ordered
        (entries.foldl (fun made entry => insertEntry made entry.1 entry.2) []))

def insertMember (members : List Raw) (member : Raw) : List Raw :=
  if members.any fun other => other.sameKey member then members else members ++ [member]

/-- The set of a list of values, in which members may be repeated. -/
def setOf (frozen : Bool) (items : List Raw) : Except KeyError Raw :=
  match firstKeyError? items with
  | some error => .error error
  | none => .ok (.set frozen (items.foldl insertMember []))

end Raw

end SqlDump.Client
