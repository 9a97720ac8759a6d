import EscapeClause.Console.EmojiCode

/-!
# Markup

Marked-up text has tags in brackets that style what stands between them and are not printed
themselves: an opening bracket, a small letter or one of `#`, `/` and `@`, and anything up to a
closing bracket with no opening one between. Backslashes before a tag are halved, and an odd one
makes the tag plain text. A backslash before a bracket that starts no tag is dropped. Emoji codes
in plain text are replaced by their pictures, but no code reaches over a tag.

`escape` prepares plain text for being printed as marked-up text and `render` is what is printed,
whether the tags match or not.
They are not inverse to each other: `escape` leaves a bracket that starts no tag alone, so a
backslash before such a bracket is lost.
-/

namespace EscapeClause.Console.Markup

/-- Whether a code point after an opening bracket starts a tag. -/
def startsTag (c : Char) : Bool := c.isLower || c == '#' || c == '/' || c == '@'

/-- What stands before the next bracket, if that is a closing one, and what follows it. -/
def upToClosing? : Text → Option (Text × Text)
  | [] => none
  | c :: r =>
    if c = ']' then some ([], r)
    else if c = '[' then none
    else (upToClosing? r).map fun p => (c :: p.1, p.2)

theorem length_of_upToClosing? {t body rest : Text} (h : upToClosing? t = some (body, rest)) :
    rest.length < t.length := by
  induction t generalizing body with
  | nil => cases h
  | cons c r ih =>
    rw [upToClosing?] at h
    split at h
    · cases h; simp
    · split at h
      · cases h
      · obtain ⟨p, hp, he⟩ := Option.map_eq_some_iff.1 h
        cases he
        exact Nat.lt_succ_of_lt (ih hp)

/-- The tag whose opening bracket has been read, and what follows the tag. -/
def tag? : Text → Option (Text × Text)
  | [] => none
  | c :: r => if startsTag c then (upToClosing? r).map fun p => (c :: p.1, p.2) else none

theorem length_of_tag? {t body rest : Text} (h : tag? t = some (body, rest)) :
    rest.length < t.length := by
  cases t with
  | nil => cases h
  | cons c r =>
    rw [tag?] at h
    split at h
    · obtain ⟨p, hp, he⟩ := Option.map_eq_some_iff.1 h
      cases he
      exact Nat.lt_succ_of_lt (length_of_upToClosing? hp)
    · cases h

inductive Piece
  | char (c : Char)
  /-- A tag with the number of backslashes right before it. -/
  | tag (slashes : Nat) (body : Text)
  deriving DecidableEq, Repr

/-- The pieces of a text before which `slashes` backslashes have been read. -/
def piecesFrom (slashes : Nat) (t : Text) : List Piece :=
  match t with
  | [] => List.replicate slashes (.char '\\')
  | c :: r =>
    if c = '\\' then piecesFrom (slashes + 1) r
    else if c = '[' then
      match h : tag? r with
      | some (body, rest) => .tag slashes body :: piecesFrom 0 rest
      | none => List.replicate slashes (.char '\\') ++ .char c :: piecesFrom 0 r
    else List.replicate slashes (.char '\\') ++ .char c :: piecesFrom 0 r
termination_by t.length
decreasing_by
  · simp
  · exact Nat.lt_succ_of_lt (length_of_tag? h)
  · simp
  · simp

def pieces (t : Text) : List Piece := piecesFrom 0 t

def tagText (body : Text) : Text := '[' :: body ++ [']']

/-- A piece made plain text. -/
def escapePiece : Piece → Text
  | .char c => [c]
  | .tag slashes body => List.replicate (2 * slashes + 1) '\\' ++ tagText body

/-- Whether a text ends in a backslash with none before it. -/
def endsInOneSlash (t : Text) : Bool :=
  match t.reverse with
  | '\\' :: '\\' :: _ => false
  | '\\' :: _ => true
  | _ => false

/-- Plain text prepared for being printed as marked-up text. -/
def escape (t : Text) : Text :=
  let escaped := (pieces t).flatMap escapePiece
  if endsInOneSlash escaped then escaped ++ ['\\'] else escaped

/-! ### What is printed -/

/-- A part of marked-up text, plain text or a tag. -/
inductive Part
  /-- Text between two tags, with its emoji codes. -/
  | plain (t : Text)
  /-- A tag and the index of its opening bracket. -/
  | tag (position : Nat) (body : Text)
  deriving DecidableEq, Repr

def consChar (c : Char) : List Part → List Part
  | .plain t :: r => .plain (c :: t) :: r
  | r => .plain [c] :: r

/-- The parts that pieces make, the first one of which stands at `position`. A tag that is plain
text and the backslashes before a tag are parts of their own. -/
def partsFrom (position : Nat) : List Piece → List Part
  | [] => []
  | .char '\\' :: .char '[' :: r => consChar '[' (partsFrom (position + 2) r)
  | .char c :: r => consChar c (partsFrom (position + 1) r)
  | .tag slashes body :: r =>
    .plain (List.replicate (slashes / 2) '\\') ::
      (if slashes % 2 = 1 then .plain (tagText body) else .tag (position + slashes) body) ::
      partsFrom (position + slashes + (tagText body).length) r

def parts (t : Text) : List Part := partsFrom 0 (pieces t)

def Part.printed : Part → Text
  | .plain t => EmojiCode.replace t
  | .tag _ _ => []

/-- What marked-up text prints. -/
def render (t : Text) : Text := (parts t).flatMap Part.printed

end EscapeClause.Console.Markup
