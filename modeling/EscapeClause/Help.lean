import EscapeClause.Console.Panel
import EscapeClause.Console.Styling
import EscapeClause.OrderedMap
import EscapeClause.Record

/-!
# Help

The help of a command is marked-up text in a fixed form (`HelpText.markup`), shown in a panel
(`helpPanel`). `ownHelp` is the help of this program.
-/

namespace EscapeClause

structure HelpText where
  command : Text
  description : Text
  usage : Text
  /-- The arguments and what they are for. -/
  arguments : OrderedMap Text Text

def HelpText.markup (h : HelpText) : Text :=
  "[bold cyan]".toList ++ h.command ++ "[/bold cyan]: ".toList ++ h.description ++
    "\n\n[bold yellow]Usage:[/bold yellow]\n    [green]".toList ++ h.usage ++
    "[/green]\n\n[bold yellow]Arguments:[/bold yellow]\n".toList ++
    h.arguments.entries.flatMap fun e =>
      "    [green]".toList ++ e.1 ++ "[/green]: ".toList ++ e.2 ++ ['\n']

def noHelp : Text := "No help text available.".toList

/-- The cells that a help panel may take: ten more than the widest line of its marked-up text, at
most a hundred, and no more than the terminal has. -/
def helpWidth (markup : Text) : Nat :=
  min Console.terminalWidth (min 100 (Console.widest List.length markup + 10))

/-- What the panel of a help prints, for a command of this name, unless its tags do not match. -/
def helpPanel (command : Text) (help : Option Text) :
    Logged (Except Console.Markup.Error Text) :=
  let markup := match help with
    -- An empty help is none.
    | none | some [] => noHelp
    | some markup => markup
  let printed := (Console.Markup.styled? markup).map fun body =>
    Console.unlines (Console.panel (helpWidth markup) none body)
  ⟨printed, [.helpRendered command]⟩

def programName : Text := "escsql".toList

def ownHelp : HelpText :=
  { command := programName
    description := "Rewrite \x7bkeyword args\x7d escape clauses in SQL text.".toList
    usage := "escsql [OPTIONS] [SQL]".toList
    arguments := OrderedMap.ofList
      [("SQL".toList, "Escaped SQL; read from stdin when omitted".toList),
       ("--split".toList, "Print the top-level comma separated fields instead".toList),
       ("--passthru KEYWORD".toList, "Echo KEYWORD with its arguments (repeatable)".toList),
       ("--arg-only KEYWORD".toList,
        "Replace KEYWORD clauses by their arguments (repeatable)".toList),
       ("--no-defaults".toList, "Do not register the standard SQLite keywords".toList),
       ("--handlers PATH".toList, "JSON file of extra keywords".toList),
       ("-V, --version".toList, "Show the version and exit".toList)] }

end EscapeClause
