import EscapeClause.Text.Basic
import EscapeClause.Text.Printable

/-!
# Quoted texts

How log records and messages show a text between quotes: an apostrophe on both sides, or a double
quote where the text has an apostrophe and no double quote. The delimiter and the backslash are
written with a backslash, line feed, carriage return and tab by a letter, and any other
unprintable code point by the hexadecimal digits of its number: two, four or eight of them,
whichever is the least that suffices.
-/

namespace EscapeClause.Text

/-- The lowest `width` hexadecimal digits of a number. -/
def hexDigits : Nat → Nat → Text
  | 0, _ => []
  | width + 1, n => hexDigits width (n / 16) ++ [Nat.digitChar (n % 16)]

@[simp] theorem length_hexDigits (width n : Nat) : (hexDigits width n).length = width := by
  induction width generalizing n with
  | zero => rfl
  | succ w ih => simp [hexDigits, ih]

/-- One code point inside a quoted text with this delimiter. -/
def quotedChar (delimiter c : Char) : Text :=
  if c = delimiter || c = '\\' then ['\\', c]
  else if c = '\n' then ['\\', 'n']
  else if c = '\r' then ['\\', 'r']
  else if c = '\t' then ['\\', 't']
  else if isPrintable c then [c]
  else if c.toNat < 0x100 then '\\' :: 'x' :: hexDigits 2 c.toNat
  else if c.toNat < 0x10000 then '\\' :: 'u' :: hexDigits 4 c.toNat
  else '\\' :: 'U' :: hexDigits 8 c.toNat

def quoteDelimiter (t : Text) : Char :=
  -- A quotation mark stands around a text only where it spares an escape.
  if t.contains '\'' && !t.contains '"' then '"' else '\''

def quoted (t : Text) : Text :=
  let delimiter := quoteDelimiter t
  delimiter :: t.flatMap (quotedChar delimiter) ++ [delimiter]

end EscapeClause.Text
