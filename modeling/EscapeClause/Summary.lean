import EscapeClause.Console.Markup
import EscapeClause.Console.Panel

/-!
# Summaries

The panel that a detailed run prints: whether the text was expanded, and the keywords of the
registry in the order of code points.
-/

namespace EscapeClause

def summaryMarkup (succeeded : Bool) (keywords : List Text) : Text :=
  let status := if succeeded then "[green]ok[/green]" else "[red]failed[/red]"
  let listed := Text.join ", ".toList (keywords.mergeSort Text.le)
  "status: ".toList ++ status.toList ++ "\nkeywords: ".toList ++ Console.Markup.escape listed

def summary (succeeded : Bool) (keywords : List Text) : Text :=
  -- The only styles are those of the state, which ends its line.
  let body := .plain (Console.clean (Console.Markup.render (summaryMarkup succeeded keywords)))
  Console.unlines (Console.panel Console.terminalWidth (some "escsql".toList) body)

end EscapeClause
