import EscapeClause.CommandLine

/-!
# The program

Reads the world into an `Environment`, runs the command line, and writes what the run ends with.
Records of the log go to the error output.
-/

open EscapeClause

namespace EscapeClause.Main

def environment : IO (List (Text × Text)) := do
  return Settings.readVariables (← IO.FS.readBinFile "/proc/self/environ")

def look (path : Text) : IO (Option FileNode) := do
  try
    return some (.file (← IO.FS.readBinFile (String.ofList path)))
  catch
    | .noFileOrDirectory .. => return none
    | _ => return some .directory

def readFiles (paths : List Text) : IO Files := do
  let found ← paths.mapM fun path => return (path, ← look path)
  return fun path => ((found.find? (·.1 == path)).map Prod.snd).join

/-- The standard input, which is read only when the request needs it. -/
def readInput (request : Except UsageError Request) : IO StandardInput := do
  match request with
  | .ok (.run { sql := none, .. }) =>
    let input ← IO.getStdin
    if ← input.isTty then return .terminal
    return .text (← input.readToEnd).toList
  | _ => return .terminal

/-- Runs the program with this handlers file, unless the command line names another one. -/
def runWith (settings : Settings) (handlersFile : Text) (arguments : List Text) : IO UInt32 := do
  let files ← readFiles (CommandLine.consulted handlersFile arguments)
  let input ← readInput (Request.ofCommandLine files arguments)
  let run := CommandLine.run ⟨files, input, settings.detailed, handlersFile⟩ arguments
  for line in Record.visible settings.quiet run.records do
    IO.eprintln (String.ofList line)
  IO.print (String.ofList run.value.output)
  IO.eprint (String.ofList run.value.errorOutput)
  return UInt32.ofNat run.value.status

end EscapeClause.Main

def main (arguments : List String) : IO UInt32 := do
  let environment ← Main.environment
  match Settings.ofEnvironment environment with
  | .ok settings =>
    let handlersFile := settings.handlersFile.getD (Settings.userHandlersFile environment)
    Main.runWith settings handlersFile.text (arguments.map String.toList)
  | .error names =>
    for name in names do
      IO.eprintln (String.ofList (name.text ++ ": not a truth value".toList))
    return 1
