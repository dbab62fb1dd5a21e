import SqlDump.Session.Blocking

/-!
# Writing a dump, blocking

A dump is made section by section, in the order in which the server lists the
tables. A file is written only when all sections are there.
-/

namespace SqlDump.Blocking

open Server Dump

/-- The sections of one table: its structure where the server shows it, and its
data where that is wanted. -/
def tableChunks (settings : Settings) (options : DumpOptions) (formatter : Formatter)
    (database table : Text) : Blocking (List Text) := do
  let definition ← showDefinition settings database table
  let structureChunks := (definition.map (formatter.structureSection table)).toList
  if options.withData then
    let result ← fetchTable settings database table
    log .dump .debug (Notice.dumpingRows result table)
    let data ← ofExcept ((formatter.dataSection table result).mapError .row)
    return structureChunks ++ [data]
  else return structureChunks

/-- The sections of the tables of a database. -/
def tablesChunks (settings : Settings) (options : DumpOptions) (formatter : Formatter)
    (database : Text) : List Text → Blocking (List Text)
  | [] => done []
  | table :: rest => do
      let first ← tableChunks settings options formatter database table
      let others ← tablesChunks settings options formatter database rest
      return first ++ others

/-- The sections of a dump, from the header to the footer. -/
def dumpChunks (settings : Settings) (options : DumpOptions) (formatter : Formatter)
    (database : Text) : Blocking (List Text) := do
  let tables ← listTables settings database
  let sections ← tablesChunks settings options formatter database tables
  return formatter.header database :: sections ++ [Formatter.footer]

/-- The text of a dump. -/
def dump (settings : Settings) (options : DumpOptions) (formatter : Formatter)
    (database : Text) : Blocking Text := do
  return (← dumpChunks settings options formatter database).flatten

def writeFile (path : Text) (chunks : List Text) : Blocking Unit := do
  let written := writeText (← context).files path chunks
  modify ({ · with files := written.2 })
  ofExcept (written.1.mapError .file)

/-- Writes a dump into a file. -/
def writeDump (settings : Settings) (options : DumpOptions) (formatter : Formatter)
    (database path : Text) : Blocking Unit := do
  log .dump .info (Notice.exporting database path)
  writeFile path (← dumpChunks settings options formatter database)
  log .dump .info (Notice.exported database)

/-- Makes a dump that there is no path for. This comes to light only when all sections
are there. -/
def dumpNowhere (settings : Settings) (options : DumpOptions) (formatter : Formatter)
    (database : Text) : Blocking Unit := do
  log .dump .info (Notice.exporting database FileError.noPath.path)
  let _ ← dumpChunks settings options formatter database
  fail (.file .noPath)

end SqlDump.Blocking
