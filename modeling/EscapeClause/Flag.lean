import EscapeClause.Json.Basic

/-!
# Truth values as users write them

Settings and handlers files accept a truth value in many spellings: the words of `falseWords` and
`trueWords` in any case of ASCII letters and, in a handlers file, the JSON truth values and the
numbers zero and one. A value is refused for what it is: a text or an integer that is no truth
value, a string that is no text, or a value of another kind. A decimal counts as the integer that
it is rounded to.
-/

namespace EscapeClause

/-- Why a value is no truth value. -/
inductive FlagError
  /-- A text, or an integer of 64 bits, without a truth value. -/
  | unreadable
  /-- A string with half of a pair in it. -/
  | notText
  /-- A value of a kind that has no truth values. -/
  | wrongKind
  deriving DecidableEq, Repr

def falseWords : List Text :=
  ["0".toList, "off".toList, "f".toList, "false".toList, "n".toList, "no".toList]

def trueWords : List Text :=
  ["1".toList, "on".toList, "t".toList, "true".toList, "y".toList, "yes".toList]

def flagOfText (t : Text) : Except FlagError Bool :=
  let word := Text.lowerAscii t
  if falseWords.contains word then .ok false
  else if trueWords.contains word then .ok true
  else .error .unreadable

/-- The truth value of an integer, which is of the right kind if it lies between these. -/
def flagOfInteger (least greatest n : Int) : Except FlagError Bool :=
  if n = 0 then .ok false
  else if n = 1 then .ok true
  else .error (if least ≤ n ∧ n ≤ greatest then .unreadable else .wrongKind)

def flagOfJson : Json → Except FlagError Bool
  | .bool value => .ok value
  | .integer n => flagOfInteger (-0x8000000000000000) 0x7fffffffffffffff n
  | .decimal d =>
    match d.integer? with
    -- What is rounded to either end of 64 bits is taken for a number beyond it.
    | some n => flagOfInteger (-0x7fffffffffffffff) 0x7fffffffffffffff n
    | none => .error .wrongKind
  | .string s =>
    match s.text? with
    | some t => flagOfText t
    | none => .error .notText
  | _ => .error .wrongKind

end EscapeClause
