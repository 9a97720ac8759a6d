import EscapeClause.Console.EmojiName

/-!
# Emoji codes

A name between two colons stands for its picture; `-text` or `-emoji` after the name asks for the
plain or the colourful form. A code of an unknown name is plain text, closing colon included: that
colon opens no other code. There is no white space in a code.
-/

namespace EscapeClause.Console.EmojiCode

/-- What stands before the next colon, if no white space does, and what follows the colon. -/
def upToColon? : Text → Option (Text × Text)
  | [] => none
  | c :: r =>
    if c = ':' then some ([], r)
    else if Text.isBlank c then none
    else (upToColon? r).map fun p => (c :: p.1, p.2)

theorem length_of_upToColon? {t body rest : Text} (h : upToColon? t = some (body, rest)) :
    rest.length < t.length := by
  induction t generalizing body with
  | nil => cases h
  | cons c r ih =>
    rw [upToColon?] at h
    split at h
    · cases h; simp
    · split at h
      · cases h
      · obtain ⟨p, hp, he⟩ := Option.map_eq_some_iff.1 h
        cases he
        exact Nat.lt_succ_of_lt (ih hp)

/-- The endings of a name that ask for a form of its picture, with the selector of the form. -/
def forms : List (Text × Char) := [("-emoji".toList, '\ufe0f'), ("-text".toList, '\ufe0e')]

def picture? (body : Text) : Option Text :=
  match forms.find? fun f => f.1.isSuffixOf body with
  | some (ending, selector) =>
    (emojiNamed? (body.take (body.length - ending.length))).map (· ++ [selector])
  | none => emojiNamed? body

/-- The text with the known codes replaced by their pictures. -/
def replace (t : Text) : Text :=
  match t with
  | [] => []
  | c :: r =>
    if c = ':' then
      match _h : upToColon? r with
      | some (body, rest) => (picture? body).getD (':' :: body ++ [':']) ++ replace rest
      | none => c :: replace r
    else c :: replace r
termination_by t.length
decreasing_by
  · exact Nat.lt_succ_of_lt (length_of_upToColon? _h)
  · simp
  · simp

theorem replace_of_no_colon {t : Text} (h : ':' ∉ t) : replace t = t := by
  induction t with
  | nil => rw [replace]
  | cons c r ih =>
    rw [List.mem_cons, not_or] at h
    rw [replace, if_neg fun hc => h.1 hc.symm, ih h.2]

end EscapeClause.Console.EmojiCode
