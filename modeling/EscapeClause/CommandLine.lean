import EscapeClause.HandlersFile
import EscapeClause.Help
import EscapeClause.Options
import EscapeClause.Parse
import EscapeClause.Settings
import EscapeClause.Summary
import EscapeClause.VersionDeclaration

/-!
# The command line

A run reads its command line, then its text, then its handlers file, and prints the expanded text
or its fields. Everything that it asks of the world is in an `Environment`, and everything that it
does to it is an `Ending`: an exit status and what it wrote.

* Status 0: the text was expanded or split, or version or help was asked for.
* Status 1: the text is malformed, or the handlers file is.
* Status 2: the command line is not understood, or there is no text.
-/

namespace EscapeClause

inductive StandardInput
  | terminal
  | text (t : Text)
  deriving DecidableEq, Repr

/-- What a run can ask of the world. -/
structure Environment where
  files : Files
  input : StandardInput
  detailed : Bool
  /-- The handlers file that is used when none is named on the command line. -/
  handlersFile : Text

/-- How a run ends. -/
structure Ending where
  status : Nat
  output : Text
  errorOutput : Text
  deriving DecidableEq, Repr

def dropFinalNewlines (t : Text) : Text := (t.reverse.dropWhile (· = '\n')).reverse

/-- The text to work on: the one on the command line, else the standard input, unless that is a
terminal. -/
def readSql (sql : Option Text) (input : StandardInput) : Option Text :=
  match sql, input with
  | some t, _ => some t
  | none, .text t => some (dropFinalNewlines t)
  | none, .terminal => none

namespace CommandLine

def usageEnding (e : UsageError) : Ending :=
  let usage := if e.showsUsage then
    "Usage: escsql [OPTIONS] [SQL]\nTry 'escsql --help' for help.\n\n".toList else []
  ⟨2, [], usage ++ "Error: ".toList ++ e.message ++ ['\n']⟩

def noSqlEnding : Ending :=
  ⟨2, "Error: no SQL given and stdin is a terminal\n".toList, []⟩

/-- The text with every run of white space made one space, without white space at its ends. -/
def collapse (t : Text) : Text :=
  Text.join [' '] (Text.words t)

/-- What a refused handlers file writes: its message is laid out in the width of the terminal, and
white space counts as one space. -/
def configurationEnding (message : Text) : Ending :=
  let line := "Configuration error: ".toList ++
    Console.Markup.render (Console.Markup.escape message)
  ⟨1, collapse (Console.unlines (Console.wrap Console.terminalWidth (Console.clean line))) ++
    ['\n'], []⟩

/-- What a malformed text writes. -/
def refusedOutput (message : Text) : Text :=
  Console.print ("Syntax error: ".toList ++ Console.Markup.render (Console.Markup.escape message))

def versionEnding : Ending :=
  ⟨0, programName ++ ", version ".toList ++ VersionDeclaration.programVersion ++ ['\n'], []⟩

/-- What the help option writes: the panel and an empty line. -/
def helpEnding : Logged Ending :=
  let panel := helpPanel programName (some ownHelp.markup)
  let ending : Ending := match panel.value with
    | .ok printed => ⟨0, printed ++ ['\n'], []⟩
    | .error e => ⟨1, [], e.message ++ ['\n']⟩
  ⟨ending, panel.records⟩

def registry (options : RunOptions) (extra : Registry Unit) : Registry Unit :=
  Registry.assemble ⟨options.defaults, extra, options.echoed, options.dropped⟩

/-- How a run that expands its text ends. A registry of a run has no value that cannot answer, so
that a parse always has a result. -/
def expandEnding (detailed : Bool) (handlers : Registry Unit) (sql : Text) : Logged Ending :=
  let parsing := parse handlers sql ()
  let panel (succeeded : Bool) := if detailed then summary succeeded handlers.keys else []
  let ending : Ending := match parsing.result with
    | .ok (.expanded t) => ⟨0, panel true ++ Console.print t, []⟩
    | .ok (.refused message) => ⟨1, panel false ++ refusedOutput message, []⟩
    | .error label => ⟨1, [], label ++ ['\n']⟩
  ⟨ending, parsing.records⟩

def splitEnding (sql : Text) : Ending := ⟨0, (fields sql).flatMap Console.print, []⟩

def work (detailed split : Bool) (handlers : Registry Unit) (sql : Text) : Logged Ending :=
  if split then ⟨splitEnding sql, []⟩ else expandEnding detailed handlers sql

def runOptions (env : Environment) (options : RunOptions) : Logged Ending :=
  match readSql options.sql env.input with
  | none => ⟨noSqlEnding, []⟩
  | some sql =>
    let loaded : Logged (Except HandlersFile.Error (Registry Unit)) :=
      HandlersFile.loadRegistry env.files (options.handlersFile.getD env.handlersFile)
    match loaded.value with
    | .error e =>
      if e.isRefusal then
        ⟨configurationEnding e.message, loaded.records ++ [.configurationFailed e.message]⟩
      else ⟨⟨1, [], e.message ++ ['\n']⟩, loaded.records⟩
    | .ok extra =>
      let worked := work env.detailed options.split (registry options extra) sql
      ⟨worked.value, loaded.records ++ worked.records⟩

def run (env : Environment) (arguments : List Text) : Logged Ending :=
  match Request.ofCommandLine env.files arguments with
  | .error e => ⟨usageEnding e, []⟩
  | .ok .showVersion => ⟨versionEnding, []⟩
  | .ok .showHelp => helpEnding
  | .ok (.run options) => runOptions env options

/-- The paths that a run may ask about. -/
def consulted (handlersFile : Text) (arguments : List Text) : List Text :=
  let named := match Arguments.read arguments with
    | .error _ => []
    | .ok a => a.values .handlers
  (handlersFile :: named).flatMap fun path => [path, (Path.ofText path).text]

end CommandLine

end EscapeClause
