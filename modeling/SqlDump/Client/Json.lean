import SqlDump.Client.Raw
import SqlDump.Number.Shortest

/-!
# JSON text of client values

Mappings and sequences are stored as JSON text on one line, with a blank after
each comma and colon. Characters beyond ASCII are written as they are. Keys that
are numbers, truth values or nothing are written as strings. Doubles have their
shortest numeral, and words where they are no finite number.
-/

namespace SqlDump.Client

/-- Why a value has no JSON text. -/
inductive JsonError where
  | notSerializable (typeName : String)
  | badKey (typeName : String)
  | numeral (error : Numeral.Error)
  deriving DecidableEq, Repr

def JsonError.message : JsonError → Text
  | .notSerializable typeName =>
      text "Object of type " ++ SqlDump.text typeName ++ SqlDump.text " is not JSON serializable"
  | .badKey typeName =>
      text "keys must be str, int, float, bool or None, not " ++ SqlDump.text typeName
  | .numeral error => error.message

namespace Json

/-- The words for infinity and for a double that is no number. -/
def specialWords : Binary64.SpecialWords := { infinity := "Infinity", undefined := "NaN" }

def ofReal (number : Binary64) : Text :=
  number.render specialWords Scientific.short

/-- A symbol inside a JSON string. -/
def escapeSymbol (symbol : Symbol) : Text :=
  if symbol = .char '"' then text "\\\""
  else if symbol = .char '\\' then text "\\\\"
  else if symbol = .char '\n' then text "\\n"
  else if symbol = .char '\r' then text "\\r"
  else if symbol = .char '\t' then text "\\t"
  else if symbol = .char '\x08' then text "\\b"
  else if symbol = .char '\x0c' then text "\\f"
  else if symbol.place < 0x20 then text "\\u" ++ Quoted.hexadecimal 4 symbol.place
  else [symbol]

def ofText (content : Text) : Text :=
  .char '"' :: content.flatMap escapeSymbol ++ [.char '"']

def ofTruth (value : Bool) : Text :=
  text (if value then "true" else "false")

def ofInteger (number : Int) : Except JsonError Text :=
  match Numeral.ofInt number with
  | .ok numeral => .ok numeral
  | .error error => .error (.numeral error)

/-- The content of the string for a key. -/
def keyContent (key : Raw) : Except JsonError Text :=
  match key.plain with
  | .text content => .ok content
  | .integer number => ofInteger number
  | .real number => .ok (ofReal number)
  | .truth value => .ok (ofTruth value)
  | .nothing => .ok (text "null")
  | _ => .error (.badKey key.fullTypeName)

/-- Brackets around items with commas between them. -/
def bracketed (opening closing : Char) (items : List Text) : Text :=
  .char opening :: (text ", ").intercalate items ++ [.char closing]

mutual

/-- The JSON text of a value of the named type. -/
def ofRawNamed (typeName : String) : Raw → Except JsonError Text
  | .nothing => .ok (text "null")
  | .truth value => .ok (ofTruth value)
  | .integer number => ofInteger number
  | .real number => .ok (ofReal number)
  | .text content => .ok (ofText content)
  | .mapping _ entries => return bracketed '\x7b' '\x7d' (← ofEntries entries)
  | .sequence items => return bracketed '[' ']' (← ofItems items)
  | .tuple items => return bracketed '[' ']' (← ofItems items)
  | .derived _ base => ofRawNamed typeName base
  | .named _ _ number => ofInteger number
  | _ => .error (.notSerializable typeName)

def ofItems : List Raw → Except JsonError (List Text)
  | [] => .ok []
  | item :: rest => return (← ofRawNamed item.typeName item) :: (← ofItems rest)

def ofEntries : List (Raw × Raw) → Except JsonError (List Text)
  | [] => .ok []
  | (key, value) :: rest =>
      return (ofText (← keyContent key) ++ text ": " ++ (← ofRawNamed value.typeName value)) ::
        (← ofEntries rest)

end

def ofRaw (raw : Raw) : Except JsonError Text :=
  ofRawNamed raw.typeName raw

end Json

end SqlDump.Client
