import EscapeClause.Text.Basic

/-!
# Paths

A path is a root and a list of parts. Empty parts and parts that are a single dot say nothing and
are dropped, so that repeated and trailing slashes disappear; two dots stay. Exactly two leading
slashes are a root of their own, three or more are one.
-/

namespace EscapeClause

/-- A file path in normal form. -/
structure Path where
  /-- Nothing for a relative path, else one slash or two. -/
  root : Text
  parts : List Text
  deriving DecidableEq, Repr

namespace Path

def isPart (part : Text) : Bool := part != [] && part != ['.']

def ofText (t : Text) : Path :=
  let slashes := t.takeWhile (· = '/')
  ⟨if slashes.length = 2 then slashes else slashes.take 1, (Text.splitAt '/' t).filter isPart⟩

/-- Writes a path; the path of nothing is a dot. -/
def text (p : Path) : Text :=
  if p.root = [] ∧ p.parts = [] then ['.'] else p.root ++ Text.join ['/'] p.parts

def join (directory file : Text) : Text :=
  if directory = [] ∨ directory.getLast? = some '/' then directory ++ file
  else directory ++ '/' :: file

end Path

end EscapeClause
