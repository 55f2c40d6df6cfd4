import HubRelay.CommandLine.Run

/-!
# The program

The program runs its command line on the machine's files. Text goes to the standard output and
errors to the standard error stream. A command line that is not understood ends with status 2, and
one that fails with status 1.
-/

set_option autoImplicit false

namespace HubRelay.Program

/-- Whether an action succeeds. -/
def succeeds (action : IO Unit) : IO Bool := do
  try
    action
    return true
  catch _ => return false

/-- The machine's files. -/
def machine : FileSystem IO where
  read path := do
    try
      return some (← IO.FS.readFile path)
    catch _ => return none
  isFile path := do
    let place := (← IO.currentDir) / path
    return (← place.pathExists) && !(← place.isDir)
  makeDirectory path := do
    if ← succeeds (IO.FS.createDir path) then return true
    ((← IO.currentDir) / path).isDir
  write path content := succeeds (IO.FS.writeFile path content)

/-- How the program is used. -/
def usage : String :=
  "Generate SignalR hub bridges from a declaration snapshot\n\n" ++
  "  generate <SNAPSHOT> [OPTIONS]   write the document of all hubs\n" ++
  "  inspect <SNAPSHOT> [OPTIONS]    print the hubs as JSON\n\n" ++
  "  -c, --config <FILE>\n  -o, --out <DIRECTORY>\n  --hint-name <NAME>\n" ++
  "  --hub-base-name <NAME>\n  --hub-assembly <NAME>\n" ++
  "  --dispatcher-path-prefix <TEXT>\n  --newline <lf|crlf>\n  --keyword-types[=<true|false>]\n"

/-- What is said about a command line that is not run. -/
def explain : UsageError → String
  | .unknownArgument => "error: unexpected argument\n"
  | .invalidValue => "error: invalid value\n"
  | .invalidAction => "error: unrecognized subcommand\n"
  | .missingSnapshot => "error: no snapshot is named\n"
  | .repeatedOption => "error: an option is given twice\n"
  | .unneededValue => "error: a value is given where none belongs\n"
  | .helpWanted | .nothingWanted => usage
  | .versionWanted => "0.1.0\n"

/-- Runs a command line. -/
def start (arguments : List String) : IO UInt32 := do
  match Arguments.parse arguments with
  | .error reason =>
    let text := explain reason
    if reason = .helpWanted ∨ reason = .versionWanted then
      IO.print text
      return 0
    else
      IO.eprint text
      return 2
  | .ok invocation =>
    match ← (invocation.run machine).run with
    | .ok text =>
      IO.print text
      return 0
    | .error reason =>
      IO.eprintln ("Error: " ++ reason.message)
      return 1

end HubRelay.Program

/-- The entry point of the program. -/
def main (arguments : List String) : IO UInt32 := HubRelay.Program.start arguments
