import EscapeClause.Decimal
import EscapeClause.OrderedMap
import EscapeClause.Text.Basic

/-!
# JSON values

The values that a handlers file can hold. Numbers are kept as they are written, and so are the
members of an object; `Json.effective` is the map that they make.

A string of JSON may have half of a pair of 16-bit units where a code point should stand, so it is
more than a text: `Decoded` has these halves beside the code points, and `Decoded.text?` tells
which strings are texts.
-/

namespace EscapeClause

/-- What may stand at a place of a decoded string: a code point, or half of a pair of units that
the other half does not follow. -/
inductive CodePoint
  | char (c : Char)
  | half (unit : Nat) (h : 0xd800 ≤ unit ∧ unit ≤ 0xdfff)
  deriving DecidableEq, Repr

abbrev Decoded := List CodePoint

namespace Decoded

def ofText (t : Text) : Decoded := t.map .char

/-- The text that a string is, unless it has halves of pairs. -/
def text? : Decoded → Option Text
  | [] => some []
  | .char c :: r => (text? r).map (c :: ·)
  | .half _ _ :: _ => none

/-- The string as a message shows it: half of a pair is no character. -/
def shown (s : Decoded) : Text :=
  s.map fun
    | .char c => c
    | .half _ _ => '\ufffd'

@[simp] theorem text?_ofText (t : Text) : text? (ofText t) = some t := by
  induction t with
  | nil => rfl
  | cons c t ih =>
    show (text? (ofText t)).map (c :: ·) = _
    rw [ih, Option.map_some]

theorem text?_eq_some_iff {s : Decoded} {t : Text} : text? s = some t ↔ s = ofText t := by
  refine ⟨fun h => ?_, fun h => h ▸ text?_ofText t⟩
  induction s generalizing t with
  | nil =>
    cases h
    rfl
  | cons p s ih =>
    cases p with
    | char c =>
      obtain ⟨r, hr, rfl⟩ := Option.map_eq_some_iff.1 h
      rw [ih hr]
      rfl
    -- One half is enough for there to be no text.
    | half u hu => cases h

theorem ofText_inj {s t : Text} : ofText s = ofText t ↔ s = t := by
  refine ⟨fun h => ?_, fun h => h ▸ rfl⟩
  rw [← Option.some.injEq, ← text?_ofText s, h, text?_ofText]

end Decoded

inductive Json
  | null
  | bool (value : Bool)
  | integer (value : Int)
  | decimal (value : Decimal)
  /-- One of the words for infinities and for what is no number. -/
  | nonFinite
  | string (value : Decoded)
  | array (items : List Json)
  /-- The members as they are written. -/
  | object (members : List (Decoded × Json))
  deriving Repr

/-- The members of an object that count: every name in its first place with its last value. -/
def Json.effective (members : List (Decoded × Json)) : OrderedMap Decoded Json :=
  OrderedMap.ofList members

end EscapeClause
