import EscapeClause.Files
import EscapeClause.Text.Quoted
import EscapeClause.Text.Word

/-!
# Version declarations

A source file declares its version at the start of a line: the name `__version__`, perhaps a colon
and a type, an equals sign and a quoted text. White space, line feeds included, may stand between
these parts; the type is a word with perhaps brackets. `declared?` finds the first line that starts
with a declaration.

White space, word characters, brackets, the colon and the equals sign are disjoint, so that no
search for the parts is needed: each of them is as long as it can be.
-/

namespace EscapeClause.VersionDeclaration

def programVersion : Text := "0.1.0".toList

/-- The name that a declaration starts with. -/
def declaredName : Text := "__version__".toList

def isQuote (c : Char) : Bool := c == '\'' || c == '"'

/-- The text without the code point `c` at its start, if it is there. -/
def skip (c : Char) : Text → Text
  | d :: r => if d = c then r else d :: r
  | [] => []

/-- What follows the type after a colon, if a type is there. -/
def afterType? (t : Text) : Option Text :=
  let t := t.dropWhile Text.isBlank
  if t.takeWhile Text.isWordChar = [] then none
  else
    -- A bracket may be missing, and what stands between two may be empty.
    let inBrackets := skip '[' (t.dropWhile Text.isWordChar)
    some (skip ']' (inBrackets.dropWhile Text.isWordChar))

/-- What follows the equals sign after the name. -/
def afterEquals? (t : Text) : Option Text :=
  let t := t.dropWhile Text.isBlank
  let typed? := match t with
    | ':' :: r => afterType? r
    | _ => some t
  typed?.bind fun t =>
    match t.dropWhile Text.isBlank with
    | '=' :: r => some r
    | _ => none

/-- The quoted text that stands first, if it is not empty and its quote is closed. -/
def quotedText? (t : Text) : Option Text :=
  match t.dropWhile Text.isBlank with
  | [] => none
  | c :: r =>
    let value := r.takeWhile fun d => !isQuote d
    -- The quote that ends the text need not be of the kind that starts it.
    if isQuote c && value != [] && r.dropWhile (fun d => !isQuote d) != [] then some value else none

/-- The version that the start of a text declares. -/
def declaredAt? (t : Text) : Option Text :=
  (Text.dropStart? t declaredName).bind fun r => (afterEquals? r).bind quotedText?

/-- The first declaration at the start of a line; `atStart` tells whether the text begins one. -/
def firstDeclared? (atStart : Bool) : Text → Option Text
  | [] => none
  | c :: r =>
    match if atStart then declaredAt? (c :: r) else none with
    | some version => some version
    | none => firstDeclared? (c == '\n') r

def declared? (t : Text) : Option Text := firstDeclared? true t

inductive Error
  | missingFile (path : Text)
  | isDirectory (path : Text)
  | undecodable
  | noDeclaration (path : Text)
  deriving DecidableEq, Repr

def Error.message : Error → Text
  | missingFile path => "Version file ".toList ++ path ++ " not found.".toList
  | isDirectory path => "[Errno 21] Is a directory: ".toList ++ Text.quoted path
  | undecodable => "'utf-8' codec can't decode".toList
  | noDeclaration path => "Could not find __version__ in ".toList ++ path

/-- The version that the file at a path declares. -/
def ofFile (files : Files) (path : Text) : Except Error Text :=
  -- Only the message about a missing file or declaration shows the path as it was given.
  let normal := (Path.ofText path).text
  match files normal with
  | none => .error (.missingFile path)
  | some .directory => .error (.isDirectory normal)
  | some (.file bytes) =>
    match decodeFile bytes with
    | none => .error .undecodable
    | some text =>
      match declared? text with
      | some version => .ok version
      | none => .error (.noDeclaration path)

end EscapeClause.VersionDeclaration
