import EscapeClause.Console.Grapheme

/-!
# Printing lines

How a text reaches the terminal when it is not laid out: five control codes are dropped, the text
is cut at line feeds, in each line every tab is replaced by the spaces up to the next tab stop, and
every line is ended by a line feed. A line is never wrapped and keeps the white space at its end.
-/

namespace EscapeClause.Console

/-- The control codes that are never printed: bell, backspace, vertical tab, form feed and
carriage return. -/
def isDropped (c : Char) : Bool :=
  c == '\x07' || c == '\x08' || c == '\x0b' || c == '\x0c' || c == '\r'

def clean (t : Text) : Text := t.filter fun c => !isDropped c

def tabWidth : Nat := 8

/-- What stands before a tab, with the spaces up to the next tab stop, at least one. -/
def upToTabStop (part : Text) : Text :=
  let cut := part ++ [' ']
  cut ++ List.replicate ((tabWidth - cellCount cut % tabWidth) % tabWidth) ' '

/-- The parts of a line joined again, each but the last one extended to the next tab stop. -/
def joinAtTabStops : List Text → Text
  | [] => []
  | [part] => part
  | part :: rest => upToTabStop part ++ joinAtTabStops rest

def expandTabs (line : Text) : Text := joinAtTabStops (Text.splitAt '\t' line)

def lines (t : Text) : List Text := Text.splitAt '\n' t

/-- These lines, each ended by a line feed. -/
def unlines (ls : List Text) : Text := ls.flatMap (· ++ ['\n'])

/-- What a text prints. -/
def print (t : Text) : Text := unlines ((lines (clean t)).map expandTabs)

end EscapeClause.Console
