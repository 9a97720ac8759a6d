import EscapeClause.Console.Markup
import EscapeClause.Console.StyleName
import EscapeClause.Console.Styled

/-!
# Styling

An opening tag styles what follows it up to the closing tag that names the same style, or to the end
of the text. A closing tag without a name closes the style opened last. A closing tag that closes
nothing is an error.
-/

namespace EscapeClause.Console.Markup

inductive Error
  /-- No open style has the name that a closing tag gives. -/
  | unmatched (body : Text) (position : Nat)
  /-- A closing tag without a name stands where no style is open. -/
  | nothingOpen (position : Nat)
  deriving DecidableEq, Repr

def Error.message : Error → Text
  | unmatched body position =>
    "closing tag '".toList ++ tagText body ++ "' at position ".toList ++ Text.ofNat position ++
      " doesn't match any open tag".toList
  | nothingOpen position =>
    "closing tag '[/]' at position ".toList ++ Text.ofNat position ++
      " has nothing to close".toList

structure OpenStyle where
  name : Text
  start : Nat
  deriving DecidableEq, Repr

/-- What is known of the parts read so far. -/
structure Styling where
  /-- The text printed so far. -/
  length : Nat
  /-- The styles that are open, the latest one first. -/
  opened : List OpenStyle
  /-- The stretches of the styles that are closed. -/
  closed : List Stretch
  deriving DecidableEq, Repr

namespace Styling

def start : Styling := ⟨0, [], []⟩

def close (s : Styling) (style : OpenStyle) : Styling :=
  { s with opened := s.opened.erase style, closed := ⟨style.start, s.length⟩ :: s.closed }

/-- What is known after one more tag. -/
def readTag (s : Styling) (position : Nat) (body : Text) : Except Error Styling :=
  -- What follows an equals sign is no part of the name.
  let name := body.takeWhile (· != '=')
  match name with
  | '/' :: name =>
    if Text.strip name = [] then
      match s.opened.head? with
      | some style => .ok (s.close style)
      | none => .error (.nothingOpen position)
    else
      match s.opened.find? fun style => style.name == canonicalStyle (Text.strip name) with
      | some style => .ok (s.close style)
      | none => .error (.unmatched body position)
  | name => .ok { s with opened := ⟨canonicalStyle name, s.length⟩ :: s.opened }

def read (s : Styling) : Part → Except Error Styling
  | .plain t => .ok { s with length := s.length + (clean (Part.plain t).printed).length }
  | .tag position body => s.readTag position body

/-- The stretches of all styles; an open one reaches to the end. -/
def spans (s : Styling) : List Stretch :=
  s.closed ++ s.opened.map fun style => ⟨style.start, s.length⟩

end Styling

/-- What marked-up text prints, with its styles. -/
def styled? (t : Text) : Except Error Styled :=
  ((parts t).foldlM Styling.read .start).map fun s => ⟨clean (render t), s.spans⟩

end EscapeClause.Console.Markup
