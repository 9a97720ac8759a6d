import EscapeClause.Json.Basic

/-!
# Reading JSON

The strict grammar: blanks are space, tab, line feed and carriage return; strings hold no raw
control character; numbers have no leading zero and no bare point. Beyond it the words `NaN`,
`Infinity` and `-Infinity` are numbers. An integer of more than `maxDigits` digits is refused for
its length, and an array or an object that stands too deep for its depth, at the place where it is
read.

`readValue` takes what is left of the text and returns what it did not use. Its first argument
bounds the steps it may take; every step uses up a part of the text, so twice the length of the
text and two more are enough (`Json.ofText`). Its second argument is the number of arrays and
objects that may still be opened inside each other.
-/

namespace EscapeClause.Json

/-- What holds other values. -/
inductive Container
  | array
  | object
  deriving DecidableEq, Repr

inductive ReadError
  /-- The text is not in the grammar. -/
  | malformed
  /-- An integer has this many digits, which is too many. -/
  | tooManyDigits (count : Nat)
  /-- There is no level left for an array or an object. -/
  | tooDeep (container : Container)
  deriving DecidableEq, Repr

def maxDigits : Nat := 4300

def isGap (c : Char) : Bool := c == ' ' || c == '\t' || c == '\n' || c == '\r'

def skipGap (t : Text) : Text := t.dropWhile isGap

/-! ### Strings -/

/-- A part of a string: a code point as it is, or a unit of 16 bits written in hexadecimal. -/
inductive Piece
  | literal (c : Char)
  | unit (value : Nat)
  deriving DecidableEq, Repr

def hexValue? (c : Char) : Option Nat :=
  if c.isDigit then some (c.toNat - '0'.toNat)
  else if 'a' ≤ c ∧ c ≤ 'f' then some (c.toNat - 'a'.toNat + 10)
  else if 'A' ≤ c ∧ c ≤ 'F' then some (c.toNat - 'A'.toNat + 10)
  else none

def hexUnit? (a b c d : Char) : Option Nat := do
  let a ← hexValue? a
  let b ← hexValue? b
  let c ← hexValue? c
  let d ← hexValue? d
  return ((a * 16 + b) * 16 + c) * 16 + d

/-- The code point that a letter after a backslash stands for. -/
def shortEscape? : Char → Option Char
  | '"' => some '"'
  | '\\' => some '\\'
  | '/' => some '/'
  | 'b' => some '\x08'
  | 'f' => some '\x0c'
  | 'n' => some '\n'
  | 'r' => some '\r'
  | 't' => some '\t'
  | _ => none

/-- The pieces of a string up to its closing quote, and what follows the quote. -/
def readPieces : Text → Option (List Piece × Text)
  | [] => none
  | '"' :: r => some ([], r)
  -- Four digits follow or the string is malformed: `u` is no short escape.
  | '\\' :: 'u' :: a :: b :: c :: d :: r =>
    match hexUnit? a b c d, readPieces r with
    | some value, some (pieces, rest) => some (.unit value :: pieces, rest)
    | _, _ => none
  | '\\' :: e :: r =>
    match shortEscape? e, readPieces r with
    | some c, some (pieces, rest) => some (.literal c :: pieces, rest)
    | _, _ => none
  | c :: r =>
    if c.toNat < 0x20 then none
    else (readPieces r).map fun p => (.literal c :: p.1, p.2)

/-- Whether a unit is the first half of a pair. -/
def isHighHalf (u : Nat) : Bool := 0xd800 ≤ u && u ≤ 0xdbff

/-- Whether a unit is the second half of a pair. -/
def isLowHalf (u : Nat) : Bool := 0xdc00 ≤ u && u ≤ 0xdfff

/-- What a unit is that stands alone. -/
def unitPoint (u : Nat) : CodePoint :=
  if h : 0xd800 ≤ u ∧ u ≤ 0xdfff then .half u h else .char (Char.ofNat u)

/-- The code point of a pair. -/
def pairChar (high low : Nat) : Char :=
  Char.ofNat (0x10000 + (high - 0xd800) * 0x400 + (low - 0xdc00))

/-- The string of the pieces, two halves of a pair making one code point. -/
def joinPieces : List Piece → Decoded
  | [] => []
  | .literal c :: r => .char c :: joinPieces r
  | [.unit u] => [unitPoint u]
  | .unit high :: .unit low :: r =>
    if isHighHalf high && isLowHalf low then .char (pairChar high low) :: joinPieces r
    -- A half without its other half stays half of a pair.
    else unitPoint high :: joinPieces (.unit low :: r)
  | .unit u :: .literal c :: r => unitPoint u :: .char c :: joinPieces r

/-- The string whose opening quote has been read, and what follows it. -/
def readString (t : Text) : Except ReadError (Decoded × Text) :=
  match readPieces t with
  | some (pieces, rest) => .ok (joinPieces pieces, rest)
  | none => .error .malformed

/-! ### Numbers -/

def digitsValue (ds : Text) : Nat := ds.foldl (fun n c => n * 10 + (c.toNat - '0'.toNat)) 0

/-- The digits after a point; none when no digit follows. -/
def readFraction (t : Text) : Text × Text :=
  match t with
  | '.' :: r =>
    match r.takeWhile Char.isDigit with
    | [] => ([], t)
    | ds => (ds, r.dropWhile Char.isDigit)
  | _ => ([], t)

/-- The power of ten after an exponent mark; none when no digit follows. -/
def readExponent (t : Text) : Option Int × Text :=
  match t with
  | c :: r =>
    if c = 'e' ∨ c = 'E' then
      let signed := match r with
        | '-' :: r' => (true, r')
        | '+' :: r' => (false, r')
        | _ => (false, r)
      match signed.2.takeWhile Char.isDigit with
      -- The mark belongs to what follows the number.
      | [] => (none, t)
      | ds =>
        (some (if signed.1 then -(digitsValue ds : Int) else digitsValue ds),
          signed.2.dropWhile Char.isDigit)
    else (none, t)
  | [] => (none, t)

/-- The digits before a point: a zero alone, or digits of which the first is none. -/
def readWhole (t : Text) : Text × Text :=
  match t with
  | '0' :: r => (['0'], r)
  | _ => (t.takeWhile Char.isDigit, t.dropWhile Char.isDigit)

/-- A number without its sign, and what follows it. -/
def readUnsigned (negative : Bool) (t : Text) : Except ReadError (Json × Text) :=
  let whole := readWhole t
  if whole.1 = [] then .error .malformed
  else
    let fraction := readFraction whole.2
    let power := readExponent fraction.2
    if fraction.1 = [] ∧ power.1 = none then
      if whole.1.length > maxDigits then .error (.tooManyDigits whole.1.length)
      else
        -- Only an integer is limited in its digits.
        let value : Int := digitsValue whole.1
        .ok (.integer (if negative then -value else value), power.2)
    else
      .ok (.decimal ⟨negative, digitsValue (whole.1 ++ fraction.1),
        power.1.getD 0 - fraction.1.length⟩, power.2)

/-- A number or one of the words for what is not finite, and what follows it. -/
def readNumber (t : Text) : Except ReadError (Json × Text) :=
  match t with
  | '-' :: r =>
    match Text.dropStart? r "Infinity".toList with
    | some rest => .ok (.nonFinite, rest)
    | none => readUnsigned true r
  | _ => readUnsigned false t

/-! ### Values -/

def words : List (Text × Json) :=
  [("null".toList, .null), ("true".toList, .bool true), ("false".toList, .bool false),
   ("NaN".toList, .nonFinite), ("Infinity".toList, .nonFinite)]

/-- The word that a text starts with, and what follows it. -/
def readWord? (t : Text) : Option (Json × Text) :=
  words.findSome? fun w => (Text.dropStart? t w.1).map fun rest => (w.2, rest)

mutual

/-- A value at the start of a text, and what follows it. -/
def readValue : Nat → Nat → Text → Except ReadError (Json × Text)
  | 0, _, _ => .error .malformed
  | fuel + 1, levels, t =>
    match t, levels with
    | '"' :: r, _ => (readString r).map fun p => (.string p.1, p.2)
    | '[' :: _, 0 => .error (.tooDeep .array)
    | '[' :: r, levels + 1 =>
      match skipGap r with
      | ']' :: rest => .ok (.array [], rest)
      | items => (readItems fuel levels items).map fun p => (.array p.1, p.2)
    | '\x7b' :: _, 0 => .error (.tooDeep .object)
    | '\x7b' :: r, levels + 1 =>
      match skipGap r with
      | '\x7d' :: rest => .ok (.object [], rest)
      | members => (readMembers fuel levels members).map fun p => (.object p.1, p.2)
    | _, _ =>
      match readWord? t with
      | some p => .ok p
      | none => readNumber t

/-- The items of an array from one that is due up to the closing bracket. -/
def readItems : Nat → Nat → Text → Except ReadError (List Json × Text)
  | 0, _, _ => .error .malformed
  | fuel + 1, levels, t => do
    let (item, rest) ← readValue fuel levels t
    match skipGap rest with
    | ',' :: r =>
      let (items, rest) ← readItems fuel levels (skipGap r)
      return (item :: items, rest)
    | ']' :: r => return ([item], r)
    | _ => .error .malformed

/-- The members of an object from one that is due up to the closing brace. -/
def readMembers : Nat → Nat → Text → Except ReadError (List (Decoded × Json) × Text)
  | 0, _, _ => .error .malformed
  | fuel + 1, levels, t =>
    match t with
    | '"' :: r => do
      let (name, rest) ← readString r
      match skipGap rest with
      | ':' :: r =>
        let (value, rest) ← readValue fuel levels (skipGap r)
        match skipGap rest with
        | ',' :: r =>
          let (members, rest) ← readMembers fuel levels (skipGap r)
          return ((name, value) :: members, rest)
        | '\x7d' :: r => return ([(name, value)], r)
        | _ => .error .malformed
      | _ => .error .malformed
    | _ => .error .malformed

end

/-- The value that a whole text is, if it nests at most this many arrays and objects. -/
def ofText (levels : Nat) (t : Text) : Except ReadError Json := do
  -- Two steps for each code point are enough, one for an array or object and one for what it holds.
  let (value, rest) ← readValue (2 * t.length + 2) levels (skipGap t)
  if skipGap rest = [] then return value else .error .malformed

end EscapeClause.Json
