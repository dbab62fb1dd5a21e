import SqlDump.Command.Run

/-!
# The program

The program is built without a client library, so every attempt to connect is
refused; scripts can still be split into their statements.
-/

namespace SqlDump

open Server Command

/-- The fault of every attempt to connect. -/
def refusal : Fault :=
  .client .interface (some 2003) none (text "Can't connect: no client library")

/-- The clock of dumps. Without a connection no dump is written, and it is never shown. -/
def idleClock : Clock :=
  { moment := { year := 1970, month := 1, day := 1 }, offset := some 0 }

/-- The environment variables that have a value. -/
def readEnvironment : IO Environment := do
  let names := ["MYSQL_HOST", "MYSQL_PORT", "MYSQL_USER", "MYSQL_PASSWORD", "MYSQL_CHARSET",
    "MYSQL_DATABASE"]
  names.filterMapM fun name => do
    let value ← IO.getEnv name
    return value.map fun content => (text name, text content)

/-- The files that words of the command line name. -/
def readFiles (arguments : List String) : IO Files := do
  let found ← arguments.filterMapM fun (argument : String) => do
    try
      let content ← IO.FS.readBinFile argument
      return some (text argument, content.toList)
    catch _ => return none
  return Files.ofList found

/-- Writes a text as it is. -/
def printText (stream : IO.FS.Stream) (content : Text) : IO Unit :=
  stream.write ⟨(Utf8.encode content).toArray⟩

/-- Notice on the error stream how the program ends, and gives its status. -/
def report (stream : IO.FS.Stream) : Ending → IO UInt32
  | .status code => return code.toUInt32
  | .help => return 0
  | .misuse program misuse => do
      printText stream (misuseLine program misuse ++ text "\n")
      return 2
  | .escape escape => do
      printText stream (escape.message ++ text "\n")
      return 1

end SqlDump

open SqlDump Server Command in
/-- Runs the program on its command line. -/
def main (arguments : List String) : IO UInt32 := do
  let script : Script := { connects := [some refusal] }
  let session := Session.start script (← readFiles arguments)
  let outcome := run (← readEnvironment) idleClock (arguments.map text) session
  printText (← IO.getStdout) outcome.output
  let stderr ← IO.getStderr
  for record in outcome.records do
    printText stderr (text record.level.name ++ text " - " ++ record.message ++ text "\n")
  report stderr outcome.ending
