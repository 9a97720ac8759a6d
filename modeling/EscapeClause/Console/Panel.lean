import EscapeClause.Console.Wrap

/-!
# Panels

A panel is a frame with round corners around a text, one space of padding at both sides. It is as
wide as its widest line, or narrower where the space is; the text is wrapped to it. A title stands
in the middle of the top edge, and the frame is wide enough for it.

The widest line is found from the text alone, but a line is filled up by what its runs take. Where a
joiner or a selector stands at the border of two runs the two differ: a line that takes less gets
more spaces, and one that takes more is cropped (`fitRuns`).
-/

namespace EscapeClause.Console

def terminalWidth : Nat := 80

/-- Whether a code point ends a line for the measure of a text. -/
def isLineBreak (c : Char) : Bool :=
  let n := c.toNat
  (0x0a ≤ n && n ≤ 0x0d) || (0x1c ≤ n && n ≤ 0x1e) || n == 0x85 || n == 0x2028 || n == 0x2029

def widest (measure : Text → Nat) (t : Text) : Nat :=
  (Text.splitWhere isLineBreak t).foldl (fun n line => max n (measure line)) 0

def edge (n : Nat) : Text := List.replicate n '─'

def centered (width : Nat) (title : Text) : Text :=
  let title := truncate width title
  let excess := width - cellCount title
  -- The edge after the title is the longer one.
  edge (excess / 2) ++ title ++ edge (excess - excess / 2)

def runCells (runs : List Text) : Nat := total (runs.map cellCount)

/-- The start of the runs that fills `width` cells; what follows it is lost. -/
def cropRuns (width : Nat) : List Text → List Text
  | [] => []
  | run :: rest =>
    if cellCount run < width then run :: cropRuns (width - cellCount run) rest
    else [truncate width run]

/-- Runs made to fill `width` cells. -/
def fitRuns (width : Nat) (runs : List Text) : List Text :=
  if runCells runs < width then runs ++ [List.replicate (width - runCells runs) ' ']
  else if width < runCells runs then cropRuns width runs
  else runs

/-- A line of the text between the sides of the frame. -/
def framed (width : Nat) (line : Styled) : Text :=
  -- A joiner at the border of two runs glues nothing, so each run is measured by itself.
  let row := [' '] :: fitRuns width line.runs ++ [[' ']]
  '│' :: (fitRuns (width + 2) row).flatten ++ ['│']

def padTitle (title : Text) : Text := ' ' :: title ++ [' ']

/-- The cells between the sides of the frame, when the whole panel may take `available` cells. A
title takes two more cells than it has, at most the width of the terminal. -/
def innerWidth (available : Nat) (title : Option Text) (body : Text) : Nat :=
  let content := min (widest cellCount body + 2) (available - 2)
  match title with
  | none => content
  | some title => min (terminalWidth - 2) (max content (cellCount (padTitle title) + 2))

/-- The lines of a panel that may take `available` cells. -/
def panel (available : Nat) (title : Option Text) (body : Styled) : List Text :=
  let inner := innerWidth available title body.text
  let top := match title with
    | none => '╭' :: edge inner ++ ['╮']
    | some title =>
      -- There is no room for a title.
      if inner ≤ 2 then '╭' :: edge inner ++ ['╮']
      else '╭' :: '─' :: centered (inner - 2) (padTitle title) ++ ['─', '╮']
  -- Neither is there for a line of the text.
  let rows := if inner ≤ 2 then [] else (body.wrap (inner - 2)).map (framed (inner - 2))
  top :: rows ++ ['╰' :: edge inner ++ ['╯']]

end EscapeClause.Console
