import EscapeClause.Text.Basic

/-!
# Syntax errors

Malformed escaped text is refused with one of five causes, the index at which it was detected and
a fragment of the text from there on. `SyntaxError.ofPosition` cuts the fragment;
`SyntaxError.message` is the wording.
-/

namespace EscapeClause

inductive Malformation
  /-- A quote is opened and never closed. -/
  | unterminatedQuote
  /-- A clause is opened and never closed. -/
  | unterminatedClause
  /-- A closing brace stands where no clause is open. -/
  | unopenedClause
  /-- An opening brace is followed by white space or by its closing brace. -/
  | missingKeyword
  /-- No handler is registered for the keyword of a closed clause. -/
  | unknownKeyword
  deriving DecidableEq, Repr

def Malformation.description : Malformation → Text
  | unterminatedQuote => "Unterminated quoted text".toList
  | unterminatedClause => "Unterminated escape sequence".toList
  | unopenedClause => "Extraneous closing brace".toList
  | missingKeyword =>
    "A keyword must immediately follow the start of an escape sequence".toList
  | unknownKeyword => "Unknown escape keyword".toList

structure SyntaxError where
  cause : Malformation
  /-- The index at which it was detected. A scan reports indices of the text; a caller who builds
  an error himself may count from the end. -/
  position : Int
  /-- The text from there on, cut short. -/
  fragment : Text
  deriving DecidableEq, Repr

namespace SyntaxError

def fragmentLength : Nat := 40

/-- The fragment of `text` at a position, followed by three dots when more remains than it
shows. -/
def fragmentAt (text : Text) (position : Int) : Text :=
  text.slice position (position + fragmentLength) ++
    if (text.length : Int) - position > fragmentLength then "...".toList else []

/-- The error with this cause at this position of `text`. -/
def ofPosition (cause : Malformation) (text : Text) (position : Int) : SyntaxError :=
  ⟨cause, position, fragmentAt text position⟩

def message (e : SyntaxError) : Text := e.cause.description ++ " -- ".toList ++ e.fragment

end SyntaxError

end EscapeClause
