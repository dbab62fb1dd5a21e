import SqlDump.Text.Encoding

/-!
# Files

Files with their octets, as seen from a working directory. A path names a file
through directories, and directories exist where files are in them. A text is
written chunk by chunk, up to the first one that has no octets.
-/

namespace SqlDump

/-- Why a file cannot be opened or written. -/
inductive FileFault where
  | notFound
  | notDirectory
  | isDirectory
  | nameTooLong
  /-- The path or the text has symbols without octets. -/
  | unwritable (failure : Encoding.Unwritable)
  /-- The path holds a null character. -/
  | nullInPath
  /-- There is an empty list in the place of the path. -/
  | noPath
  deriving DecidableEq, Repr

/-- A fault with the path it is about. -/
structure FileError where
  fault : FileFault
  path : Text
  deriving DecidableEq, Repr

namespace FileError

/-- The error number and the words of a fault. -/
def describe : FileFault → Text
  | .notFound => text "[Errno 2] No such file or directory"
  | .notDirectory => text "[Errno 20] Not a directory"
  | .isDirectory => text "[Errno 21] Is a directory"
  | .nameTooLong => text "[Errno 36] File name too long"
  | .unwritable failure => failure.message
  | .nullInPath => text "embedded null byte"
  | .noPath => text "expected str, bytes or os.PathLike object, not list"

def message (error : FileError) : Text :=
  match error.fault with
  | .unwritable _ | .nullInPath | .noPath => describe error.fault
  | fault => describe fault ++ text ": " ++ Quoted.ofText error.path

/-- Whether the operating system reports the error. -/
def isSystem (error : FileError) : Bool :=
  match error.fault with
  | .notFound | .notDirectory | .isDirectory | .nameTooLong => true
  | .unwritable _ | .nullInPath | .noPath => false

/-- The error of an empty list in the place of a path. -/
def noPath : FileError :=
  { fault := .noPath, path := text "[]" }

end FileError

/-- The names of a path, from the outermost directory on. -/
abbrev Location := List Text

/-- Files by their places. -/
abbrev Files := List (Location × Octets)

namespace Files

def separator : Symbol := .char '/'

/-- The name of the outermost directory of all. -/
def root : Text := [separator]

/-- The name that leads from a directory to the one around it. -/
def upward : Text := text ".."

/-- The name of a directory in itself. -/
def inPlace : Text := text "."

def longestName : Nat := 255

def longestPath : Nat := 4095

/-- The directory from which a path leads on. -/
def startOf (path : Text) : Location :=
  if path.head? = some separator then [root] else []

def names (path : Text) : List Text :=
  (path.splitOn separator).filter fun name => !name.isEmpty

/-- The directory around a place. -/
def parent (location : Location) : Location :=
  match location.getLast? with
  | none => [upward]
  | some last =>
      if last = root then location
      else if last = upward then location ++ [upward]
      else location.dropLast

/-- The place of a name in a directory. -/
def enter (location : Location) (name : Text) : Location :=
  if name = inPlace then location
  else if name = upward then parent location
  else location ++ [name]

/-- The place that a path names where all directories on its way exist. -/
def locationOf (path : Text) : Location :=
  (names path).foldl enter (startOf path)

/-- Whether a place is a directory: the working directory, one around it, or one
with files in it. -/
def isDirectory (files : Files) (location : Location) : Bool :=
  location.all (· = upward) || location = [root] ||
    files.any fun file => location.isPrefixOf file.1 && location.length < file.1.length

/-- The place that names lead to from a directory. All but the last one have to
name directories. -/
def walk (files : Files) : Location → List Text → Except FileFault Location
  | location, [] => .ok location
  | location, name :: rest =>
      let next := enter location name
      if longestName < (Utf8.encode name).length then .error .nameTooLong
      else if rest.isEmpty then .ok next
      else if files.isDirectory next then walk files next rest
      else if (files.lookup next).isSome then .error .notDirectory
      else .error .notFound

/-- The place that a path names, where a file is or could be. -/
def find (files : Files) (path : Text) : Except FileFault Location :=
  match Encoding.utf8.encode path with
  | .error failure => .error (.unwritable failure)
  | .ok octets =>
      if path.contains (.char '\x00') then .error .nullInPath
      else if path.isEmpty then .error .notFound
      else if longestPath < octets.length then .error .nameTooLong
      else
        match files.walk (startOf path) (names path) with
        | .error fault => .error fault
        | .ok location => if files.isDirectory location then .error .isDirectory else .ok location

/-- Whether a path can only name a directory. -/
def namesDirectory (path : Text) : Bool :=
  path.getLast? = some separator

def read (files : Files) (path : Text) : Except FileError Octets :=
  match files.find path with
  | .error fault => .error { fault, path }
  | .ok location =>
      match files.lookup location with
      | none => .error { fault := .notFound, path }
      | some octets =>
          if namesDirectory path then .error { fault := .notDirectory, path } else .ok octets

def put (files : Files) (location : Location) (octets : Octets) : Files :=
  if files.any fun file => file.1 = location then
    files.map fun file => if file.1 = location then (location, octets) else file
  else files ++ [(location, octets)]

/-- The files after a file was written, in place of what it held before. -/
def write (files : Files) (path : Text) (octets : Octets) : Except FileError Files :=
  match files.find path with
  | .error fault => .error { fault, path }
  | .ok location =>
      if namesDirectory path then .error { fault := .isDirectory, path }
      else .ok (files.put location octets)

def ofList (files : List (Text × Octets)) : Files :=
  files.map fun (path, octets) => (locationOf path, octets)

/-- The path of a place. -/
def pathOf (location : Location) : Text :=
  (text "/").intercalate location

/-- Whether a place is in the working directory. -/
def isInside (location : Location) : Bool :=
  location.head? ≠ some upward && location.head? ≠ some root

/-- The files of the working directory that are not among earlier ones with the same octets. -/
def changesSince (files earlier : Files) : Files :=
  files.filter fun file => isInside file.1 && earlier.lookup file.1 ≠ some file.2

end Files

/-- The text of a script in a file. -/
def readScript (files : Files) (path : Text) : Except FileError Text :=
  return Utf8.decode (← files.read path)

/-- The octets of chunks up to the first one that cannot be written, and why it cannot. -/
def writeChunks : List Text → Octets × Option Encoding.Unwritable
  | [] => ([], none)
  | chunk :: rest =>
      match Encoding.utf8.encode chunk with
      | .error failure => ([], some failure)
      | .ok octets => (octets ++ (writeChunks rest).1, (writeChunks rest).2)

/-- Writes the chunks of a text into a file. What could be written stays in the file
where a chunk cannot be. -/
def writeText (files : Files) (path : Text) (chunks : List Text) :
    Except FileError Unit × Files :=
  match files.write path (writeChunks chunks).1 with
  | .error error => (.error error, files)
  | .ok after =>
      match (writeChunks chunks).2 with
      | some failure => (.error { fault := .unwritable failure, path }, after)
      | none => (.ok (), after)

end SqlDump
