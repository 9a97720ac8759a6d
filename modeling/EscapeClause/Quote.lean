import EscapeClause.Text.Basic

/-!
# Quotes

Three kinds of quotes make text opaque: between its opener and the next occurrence of its closer,
braces, commas and parentheses are plain text. There is no way to escape a closer; a doubled one
closes the region and opens the next.
-/

namespace EscapeClause

inductive Quote
  | single
  | double
  | bracket
  deriving DecidableEq, Repr

namespace Quote

def opener : Quote → Char
  | single => '\''
  | double => '"'
  | bracket => '['

def closer : Quote → Char
  | single => '\''
  | double => '"'
  | bracket => ']'

def name : Quote → Text
  | single => "IN_SINGLE_QUOTE".toList
  | double => "IN_DOUBLE_QUOTE".toList
  | bracket => "IN_BRACKET_QUOTE".toList

def ofOpener? (c : Char) : Option Quote :=
  if c = '\'' then some single
  else if c = '"' then some double
  else if c = '[' then some bracket
  else none

theorem ofOpener?_eq_some_iff {c : Char} {q : Quote} : ofOpener? c = some q ↔ c = q.opener := by
  constructor
  · intro h
    unfold ofOpener? at h
    split at h
    · next hc => cases h; exact hc
    · split at h
      · next hc => cases h; exact hc
      · split at h
        · next hc => cases h; exact hc
        · cases h
  · rintro rfl
    cases q <;> decide

@[simp] theorem ofOpener?_opener (q : Quote) : ofOpener? q.opener = some q :=
  ofOpener?_eq_some_iff.2 rfl

/-- The quote that a text opens when the text is one opener and nothing else. -/
def ofText? : Text → Option Quote
  | [c] => ofOpener? c
  | _ => none

end Quote

end EscapeClause
