import SqlDump.Text.Symbol

/-!
# Quoted names

The name of a table or a database is written between backticks, and a backtick
inside it is written twice. A qualified name is a list of names with points
between them. The reader takes exactly what the writer produces.
-/

namespace SqlDump.Statement

def backtick : Symbol := .char '`'

/-- The content of a quoted name. -/
def doubled (name : Text) : Text :=
  name.flatMap fun symbol => if symbol = backtick then [backtick, backtick] else [symbol]

def identifier (name : Text) : Text :=
  backtick :: doubled name ++ [backtick]

/-- Names between backticks with points between them. -/
def qualifiedName (names : List Text) : Text :=
  (text ".").intercalate (names.map identifier)

/-- Reads the content of a quoted name up to its closing backtick, and says what
follows. A doubled backtick stands for one. -/
def readDoubled : Text → Option (Text × Text)
  | [] => none
  | symbol :: rest =>
      if symbol = backtick then
        match rest with
        | next :: behind =>
            if next = backtick then
              (readDoubled behind).map fun (name, left) => (backtick :: name, left)
            else some ([], rest)
        | [] => some ([], rest)
      else (readDoubled rest).map fun (name, left) => (symbol :: name, left)

/-- Reads a quoted name, and says what follows. -/
def readIdentifier : Text → Option (Text × Text)
  | [] => none
  | symbol :: rest => if symbol = backtick then readDoubled rest else none

/-- Reads the names of a qualified name, in at most `fuel` names. -/
def readNames : (fuel : Nat) → Text → Option (List Text)
  | 0, _ => none
  | fuel + 1, content =>
      match readIdentifier content with
      | none => none
      | some (name, []) => some [name]
      | some (name, symbol :: rest) =>
          if symbol = .char '.' then (readNames fuel rest).map (name :: ·) else none

/-- Reads a qualified name; no text has no names. -/
def readQualifiedName (content : Text) : Option (List Text) :=
  if content.isEmpty then some [] else readNames content.length content

end SqlDump.Statement
