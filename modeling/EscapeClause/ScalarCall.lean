import EscapeClause.Field

/-!
# Scalar function calls

The argument tail of a function clause such as `ucase(name)` is a `ScalarCall`: a name, white
space and a parenthesised group that runs to the end of the text, or no group at all. A text is
written as a call in at most one way, since a name has no white space and no parenthesis, so
`ScalarCall.ofText?` needs no search. `sqliteCall` writes a call in the dialect of SQLite; a text
that is no call, and a call of a function it does not know, is left as it is.
-/

namespace EscapeClause

/-- A function name, the white space after it, and what stands between the parentheses. -/
structure ScalarCall where
  name : Text
  gap : Text
  /-- The text between the first parenthesis and the last one; `none` without parentheses. -/
  inner : Option Text
  deriving DecidableEq, Repr

namespace ScalarCall

/-- The code points of function names: ASCII letters, digits and the underscore. -/
def isNameChar (c : Char) : Bool := c.isAlphanum || c == '_'

/-- What stands between the parentheses, in its parentheses; nothing without them. -/
def enclose : Option Text → Text
  | none => []
  | some inner => '(' :: inner ++ [')']

def group (call : ScalarCall) : Text := enclose call.inner

def spelling (call : ScalarCall) : Text := call.name ++ call.gap ++ call.group

/-- What a group that fills the whole text holds: `some none` for no group at all. -/
def inner? : Text → Option (Option Text)
  | [] => some none
  -- One parenthesis cannot be both the first and the last one.
  | c :: r => if c = '(' ∧ r.getLast? = some ')' then some (some r.dropLast) else none

def ofText? (t : Text) : Option ScalarCall :=
  let name := t.takeWhile isNameChar
  let rest := t.dropWhile isNameChar
  if name = [] then none
  else (inner? (rest.dropWhile Text.isBlank)).map fun inner =>
    ⟨name, rest.takeWhile Text.isBlank, inner⟩

theorem enclose_of_inner? {t : Text} {inner : Option Text} (h : inner? t = some inner) :
    enclose inner = t := by
  cases t with
  | nil => cases h; rfl
  | cons c r =>
    simp only [inner?] at h
    split at h
    · next hc =>
      cases h
      -- The last code point closes the parenthesis that stands first.
      obtain ⟨rfl, hl⟩ := hc
      obtain ⟨ys, rfl⟩ := List.getLast?_eq_some_iff.1 hl
      simp [enclose]
    · cases h

/-- A text read as a call is the text of that call. -/
theorem spelling_of_ofText? {t : Text} {call : ScalarCall} (h : ofText? t = some call) :
    call.spelling = t := by
  unfold ofText? at h
  simp only at h
  split at h
  · cases h
  · obtain ⟨inner, hi, rfl⟩ := Option.map_eq_some_iff.1 h
    rw [spelling, group, enclose_of_inner? hi, List.append_assoc,
      List.takeWhile_append_dropWhile, List.takeWhile_append_dropWhile]

end ScalarCall

/-- The SQLite names of functions that only need another name. -/
def renamedFunctions : List (Text × Text) :=
  [("CHAR_LENGTH".toList, "LENGTH".toList), ("OCTET_LENGTH".toList, "LENGTH".toList),
   ("LCASE".toList, "LOWER".toList), ("UCASE".toList, "UPPER".toList),
   ("SUBSTRING".toList, "SUBSTR".toList)]

/-- A call in the dialect of SQLite. A renamed function keeps its group, the user function becomes
an empty string literal, and a concatenation with a group becomes a chain of operators. -/
def ScalarCall.sqlite (call : ScalarCall) : Text :=
  let name := Text.upperAscii call.name
  match renamedFunctions.lookup name with
  | some renamed => renamed ++ call.group
  | none =>
    if name = "USER".toList then "''".toList
    else match call.inner with
      | some inner =>
        if name = "CONCAT".toList then Text.join " || ".toList (fields inner) else call.spelling
      -- Without a group there are no operands.
      | none => call.spelling

/-- The argument tail of a function clause in the dialect of SQLite. -/
def sqliteCall (args : Text) : Text :=
  match ScalarCall.ofText? args with
  | some call => call.sqlite
  | none => args

end EscapeClause
