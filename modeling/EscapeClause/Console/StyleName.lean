import EscapeClause.Console.Color

/-!
# Style names

A style is written as words: attributes, `not` before an attribute, a colour, `on` before the colour
of the background, `link` before an address. The order of the words and the short names of
attributes do not matter, so that two spellings name one style when their canonical names agree
(`canonicalStyle`). Words of no style are a name too, in small letters.
-/

namespace EscapeClause.Console

/-- The attributes in the order in which a canonical name lists them, and their short names. -/
def attributeNames : List (Text × List Text) :=
  let named (name : String) (short : List String) := (name.toList, short.map String.toList)
  [named "bold" ["b"], named "dim" ["d"], named "italic" ["i"], named "underline" ["u"],
   named "blink" [], named "blink2" [], named "reverse" ["r"], named "conceal" ["c"],
   named "strike" ["s"], named "underline2" ["uu"], named "frame" [], named "encircle" [],
   named "overline" ["o"]]

def attribute? (word : Text) : Option Text :=
  (attributeNames.find? fun a => a.1 == word || a.2.contains word).map Prod.fst

structure Style where
  /-- The attributes set, on or off, the latest one first. -/
  attributes : List (Text × Bool) := []
  color : Option Text := none
  background : Option Text := none
  link : Option Text := none

namespace Style

/-- The style with what one word in small letters sets, unless it has no meaning. -/
def readWord? (s : Style) (word : Text) : Option Style :=
  match attribute? word with
  | some a => some { s with attributes := (a, true) :: s.attributes }
  | none => if isColor word then some { s with color := some word } else none

/-- The style with what these words set, unless some word has no meaning. -/
def read? (s : Style) : List Text → Option Style
  | [] => some s
  -- The words `on`, `not` and `link` need another word behind them.
  | [word] => readWord? s (Text.lowerAscii word)
  | word :: next :: rest =>
    let key := Text.lowerAscii word
    if key = "on".toList then
      if isColor next then read? { s with background := some (Text.lowerAscii next) } rest else none
    else if key = "not".toList then
      match attribute? next with
      | some a => read? { s with attributes := (a, false) :: s.attributes } rest
      | none => none
    else if key = "link".toList then read? { s with link := some next } rest
    else
      match readWord? s key with
      | some s => read? s (next :: rest)
      | none => none

/-- The words of the canonical name. -/
def words (s : Style) : List Text :=
  (attributeNames.flatMap fun a =>
      match s.attributes.lookup a.1 with
      | some true => [a.1]
      | some false => ["not".toList, a.1]
      | none => []) ++
    s.color.toList ++ (s.background.elim [] fun c => ["on".toList, c]) ++
    (s.link.elim [] fun address => ["link".toList, address])

end Style

def canonicalStyle (name : Text) : Text :=
  match Style.read? {} (Text.words name) with
  | some s => Text.join [' '] s.words
  -- A name that has no meaning stands for itself.
  | none => Text.lowerAscii (Text.strip name)

end EscapeClause.Console
