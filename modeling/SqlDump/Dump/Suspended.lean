import SqlDump.Session.Suspended

/-!
# Writing a dump, suspended

The chunks of a dump are collected while the operation is suspended and resumed,
and are complete before a file is written.
-/

namespace SqlDump.Suspended

open Server Dump

/-- Collects the sections of one more table. -/
def collectTable (settings : Settings) (options : DumpOptions) (formatter : Formatter)
    (database : Text) (chunks : List Text) (table : Text) : Suspended (List Text) := do
  let definition ← showDefinition settings database table
  let chunks :=
    match definition with
    | some definition => chunks ++ [formatter.structureSection table definition]
    | none => chunks
  if options.withData then
    let result ← fetchTable settings database table
    log .dump .debug (Notice.dumpingRows result table)
    let data ← ofExcept ((formatter.dataSection table result).mapError .row)
    return chunks ++ [data]
  else return chunks

/-- Collects the chunks of a dump, from the header to the footer. -/
def collectChunks (settings : Settings) (options : DumpOptions) (formatter : Formatter)
    (database : Text) : Suspended (List Text) := do
  let tables ← listTables settings database
  let chunks ← tables.foldlM (collectTable settings options formatter database)
    [formatter.header database]
  return chunks ++ [Formatter.footer]

/-- The text of a dump. -/
def dump (settings : Settings) (options : DumpOptions) (formatter : Formatter)
    (database : Text) : Suspended Text := do
  return (← collectChunks settings options formatter database).flatten

def writeFile (path : Text) (chunks : List Text) : Suspended Unit := do
  let written := writeText (← context).files path chunks
  modify ({ · with files := written.2 })
  ofExcept (written.1.mapError .file)

/-- Writes a dump into a file. -/
def writeDump (settings : Settings) (options : DumpOptions) (formatter : Formatter)
    (database path : Text) : Suspended Unit := do
  log .dump .info (Notice.exporting database path)
  writeFile path (← collectChunks settings options formatter database)
  log .dump .info (Notice.exported database)

/-- Makes a dump that there is no path for. This comes to light only when all sections
are there. -/
def dumpNowhere (settings : Settings) (options : DumpOptions) (formatter : Formatter)
    (database : Text) : Suspended Unit := do
  log .dump .info (Notice.exporting database FileError.noPath.path)
  let _ ← collectChunks settings options formatter database
  fail (.file .noPath)

end SqlDump.Suspended
