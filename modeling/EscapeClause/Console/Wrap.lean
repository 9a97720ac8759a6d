import EscapeClause.Console.Styled

/-!
# Wrapping

A line that is laid out in a width is broken between words. A word carries the white space after
it, and only the word itself has to fit; a word that is wider than the width starts a line of its
own and is folded. White space that sticks out at the end of a line is dropped.
-/

namespace EscapeClause.Console

def isInk (c : Char) : Bool := !Text.isBlank c

/-- The words of a text, each with the white space after it; `lead` is the white space before the
first one. White space alone makes no word. -/
def wordsFrom (lead : Text) (t : Text) : List Text :=
  if _h : t.takeWhile isInk = [] then []
  else
    let after := t.dropWhile isInk
    (lead ++ t.takeWhile isInk ++ after.takeWhile Text.isBlank) ::
      wordsFrom [] (after.dropWhile Text.isBlank)
termination_by t.length
decreasing_by
  have hw : 0 < (t.takeWhile isInk).length := List.length_pos_iff.2 _h
  have hs := congrArg List.length (List.takeWhile_append_dropWhile (p := isInk) (l := t))
  have hd := (List.dropWhile_sublist (l := t.dropWhile isInk) Text.isBlank).length_le
  simp only [List.length_append] at hs
  omega

/-- The words of a text, each with the white space after it, the first one also with the white
space before it. -/
def words (t : Text) : List Text :=
  wordsFrom (t.takeWhile Text.isBlank) (t.dropWhile Text.isBlank)

/-- Graphemes cut into stretches of at most `width` cells; `used` cells of the first stretch are
taken already. -/
def foldFrom (width used : Nat) : List Grapheme → List Text
  | [] => [[]]
  | g :: r =>
    -- A grapheme that is wider than a whole line gets a line of its own, after an empty one.
    if used + g.cells > width then [] :: (foldFrom width g.cells r).modifyHead (g.text ++ ·)
    else (foldFrom width (used + g.cells) r).modifyHead (g.text ++ ·)

/-- A text cut between graphemes into stretches of at most `width` cells. -/
def foldWord (width : Nat) (t : Text) : List Text := foldFrom width 0 (graphemes t)

/-- Lines being filled: the finished ones, last one first, the one being filled, and its cells. -/
structure Filling where
  finished : List Text
  current : Text
  used : Nat

namespace Filling

/-- Starts a line, unless the current one is still empty. -/
def startLine (f : Filling) (t : Text) : Filling :=
  ⟨if f.current = [] then f.finished else f.current :: f.finished, t, cellCount t⟩

/-- Adds a word: to the current line if it fits there, else to a new one, folded if it is wider
than a line. -/
def addWord (width : Nat) (f : Filling) (word : Text) : Filling :=
  -- The white space after a word may stick out.
  let needed := cellCount (Text.stripEnd word)
  if f.used + needed ≤ width then
    { f with current := f.current ++ word, used := f.used + cellCount word }
  else if width < needed then (foldWord width word).foldl startLine f
  else f.startLine word

def all (f : Filling) : List Text := (f.current :: f.finished).reverse

end Filling

/-- The line without the white space that sticks out of the width at its end. -/
def dropExcess (width : Nat) (line : Text) : Text :=
  let blanks := (line.reverse.takeWhile Text.isBlank).length
  line.take (line.length - min blanks (line.length - width))

/-- The text of the graphemes that fit in `width` cells; half of a wide one is a space. -/
def fitting (width : Nat) : List Grapheme → Text
  | [] => []
  | g :: r =>
    if g.cells ≤ width then g.text ++ fitting (width - g.cells) r else List.replicate width ' '

/-- The start of a line that fills at most `width` cells. -/
def truncate (width : Nat) (line : Text) : Text :=
  if cellCount line ≤ width then line else fitting width (graphemes line)

def breakLine (width : Nat) (line : Text) : List Text :=
  match words line with
  -- A line of white space is kept.
  | [] => [line]
  | ws => (ws.foldl (Filling.addWord width) ⟨[], [], 0⟩).all

namespace Styled

def wrapLine (width : Nat) (line : Styled) : List Styled :=
  -- Tabs are widened before the line is measured.
  let line := line.expandTabs
  (line.cut 0 (breakLine width line.text)).map fun part =>
    part.shortenTo (truncate width (dropExcess width part.text))

def wrap (width : Nat) (s : Styled) : List Styled := s.lines.flatMap (wrapLine width)

end Styled

def wrap (width : Nat) (t : Text) : List Text := ((Styled.plain t).wrap width).map Styled.text

end EscapeClause.Console
