import EscapeClause.Json.Reader

/-!
# Texts of JSON values

A JSON text is a row of tokens with white space before and after each of them (`Spelled`), and a
string may be written in many ways: a code point as it is, after a backslash, or as one or two
units of 16 bits in hexadecimal (`CharWritten`). The reader undoes all of it: what it reads depends
on the tokens alone.

    ReadsAs.ofText_eq : ReadsAs levels tokens v → Spelled tokens t → ofText levels t = .ok v

A carriage return can only stand between tokens, so a text whose ends of line are changed spells
the same tokens (`Spelled.unifyNewlines`).
-/

namespace EscapeClause

namespace Text

theorem unifyNewlines_cons {c : Char} (hc : c ≠ '\r') (t : Text) :
    unifyNewlines (c :: t) = c :: unifyNewlines t := by
  rw [unifyNewlines]
  · intro _ h
    exact absurd h hc
  · exact hc

/-- Ends of line are changed behind a text without carriage returns as they are without it. -/
theorem unifyNewlines_append {s : Text} (hs : ∀ c ∈ s, c ≠ '\r') (t : Text) :
    unifyNewlines (s ++ t) = s ++ unifyNewlines t := by
  induction s with
  | nil => rfl
  | cons c s ih =>
    rw [List.forall_mem_cons] at hs
    rw [List.cons_append, unifyNewlines_cons hs.1, ih hs.2, List.cons_append]

end Text

namespace Json

/-! ### Written strings -/

/-- Whether a code point is the hexadecimal digit of a value, small or capital. -/
def IsHexDigit (value : Nat) (c : Char) : Prop :=
  "0123456789abcdef".toList[value]? = some c ∨ "0123456789ABCDEF".toList[value]? = some c

/-- The letters after a backslash, and what they stand for. -/
def shortEscapes : List (Char × Char) :=
  [('"', '"'), ('\\', '\\'), ('/', '/'), ('b', '\x08'), ('f', '\x0c'), ('n', '\n'), ('r', '\r'),
    ('t', '\t')]

/-- A unit of 16 bits written in four hexadecimal digits. -/
inductive UnitWritten (u : Nat) : Text → Prop
  | digits {a b c d : Char} (ha : IsHexDigit (u / 0x1000) a) (hb : IsHexDigit (u / 0x100 % 0x10) b)
      (hc : IsHexDigit (u / 0x10 % 0x10) c) (hd : IsHexDigit (u % 0x10) d) :
      UnitWritten u ['\\', 'u', a, b, c, d]

/-- A code point as it may be written in a string. -/
inductive CharWritten (c : Char) : Text → Prop
  | literal (hquote : c ≠ '"') (hslash : c ≠ '\\') (hcontrol : 0x20 ≤ c.toNat) : CharWritten c [c]
  | short {e : Char} (h : (e, c) ∈ shortEscapes) : CharWritten c ['\\', e]
  | unit {s : Text} (h : UnitWritten c.toNat s) : CharWritten c s
  /-- Beyond the first 65536 code points there are two units. -/
  | pair {s t : Text} (h : 0x10000 ≤ c.toNat)
      (hhigh : UnitWritten (0xd800 + (c.toNat - 0x10000) / 0x400) s)
      (hlow : UnitWritten (0xdc00 + (c.toNat - 0x10000) % 0x400) t) : CharWritten c (s ++ t)

/-- A text as it may be written between the quotes of a string. -/
inductive TextWritten : Text → Text → Prop
  | nil : TextWritten [] []
  | cons {c : Char} {t s r : Text} (hc : CharWritten c s) (ht : TextWritten t r) :
      TextWritten (c :: t) (s ++ r)

/-- A text without quotes, backslashes and control codes may be written as it is. -/
theorem textWritten_self {t : Text}
    (h : t.all (fun c => c != '"' && c != '\\' && decide (0x20 ≤ c.toNat)) = true) :
    TextWritten t t := by
  induction t with
  | nil => exact .nil
  | cons c t ih =>
    rw [List.all_cons, Bool.and_eq_true] at h
    simp only [Bool.and_eq_true, bne_iff_ne, decide_eq_true_eq] at h
    exact .cons (.literal h.1.1.1 h.1.1.2 h.1.2) (ih (by simpa using h.2))

/-! ### Reading strings -/

theorem IsHexDigit.hexValue?_eq {value : Nat} {c : Char} (h : IsHexDigit value c) :
    hexValue? c = some value := by
  -- Sixteen digits in each case; the place of a digit is its value.
  have hsmall :
      "0123456789abcdef".toList.zipIdx.all (fun p => hexValue? p.1 == some p.2) = true := by
    decide
  have hcapital :
      "0123456789ABCDEF".toList.zipIdx.all (fun p => hexValue? p.1 == some p.2) = true := by
    decide
  rcases h with h | h
  · exact eq_of_beq (List.all_eq_true.1 hsmall (c, value) (List.mk_mem_zipIdx_iff_getElem?.2 h))
  · exact eq_of_beq (List.all_eq_true.1 hcapital (c, value) (List.mk_mem_zipIdx_iff_getElem?.2 h))

theorem IsHexDigit.lt {value : Nat} {c : Char} (h : IsHexDigit value c) : value < 0x10 := by
  rcases h with h | h
  · exact (List.getElem?_eq_some_iff.1 h).1
  · exact (List.getElem?_eq_some_iff.1 h).1

/-- A written unit is read. -/
theorem UnitWritten.readPieces_append {u : Nat} {s : Text} (h : UnitWritten u s) (t : Text) :
    readPieces (s ++ t) = (readPieces t).map fun p => (.unit u :: p.1, p.2) := by
  rcases h with ⟨ha, hb, hc, hd⟩
  have hlt := ha.lt
  -- The four digits of a unit make it up again.
  have hvalue :
      ((u / 0x1000 * 16 + u / 0x100 % 0x10) * 16 + u / 0x10 % 0x10) * 16 + u % 0x10 = u := by
    omega
  rename_i a b c d
  have hunit : hexUnit? a b c d = some u := by
    simp only [hexUnit?, ha.hexValue?_eq, hb.hexValue?_eq, hc.hexValue?_eq, hd.hexValue?_eq,
      Option.bind_eq_bind, Option.bind_some, hvalue]
    rfl
  show readPieces ('\\' :: 'u' :: a :: b :: c :: d :: t) = _
  rw [readPieces, hunit]
  cases readPieces t <;> rfl

theorem readPieces_short {e c : Char} (h : (e, c) ∈ shortEscapes) (t : Text) :
    readPieces ('\\' :: e :: t) = (readPieces t).map fun p => (.literal c :: p.1, p.2) := by
  have hshort : shortEscape? e = some c ∧ e ≠ 'u' := by
    have hall : shortEscapes.all (fun p => shortEscape? p.1 == some p.2 && p.1 != 'u') = true := by
      decide
    simpa using List.all_eq_true.1 hall (e, c) h
  rw [readPieces, hshort.1]
  · cases readPieces t <;> rfl
  · intro _ _ _ _ _ he
    exact absurd he hshort.2

theorem readPieces_literal {c : Char} (hquote : c ≠ '"') (hslash : c ≠ '\\')
    (hcontrol : 0x20 ≤ c.toNat) (t : Text) :
    readPieces (c :: t) = (readPieces t).map fun p => (.literal c :: p.1, p.2) := by
  rw [readPieces, if_neg (Nat.not_lt.2 hcontrol)]
  · exact hquote
  · intro _ _ _ _ _ hc
    exact absurd hc hslash
  · intro _ _ hc
    exact absurd hc hslash

theorem not_half (c : Char) : isHighHalf c.toNat = false := by
  have hvalid : c.toNat < 0xd800 ∨ 0xdfff < c.toNat ∧ c.toNat < 0x110000 := c.valid
  simp only [isHighHalf, Bool.and_eq_false_iff, decide_eq_false_iff_not]
  omega

theorem unitPoint_toNat (c : Char) : unitPoint c.toNat = .char c := by
  have hvalid : c.toNat < 0xd800 ∨ 0xdfff < c.toNat ∧ c.toNat < 0x110000 := c.valid
  have halone : ¬ (0xd800 ≤ c.toNat ∧ c.toNat ≤ 0xdfff) := by omega
  rw [unitPoint, dif_neg halone, Char.ofNat_toNat]

/-- A unit that is no first half of a pair stands alone. -/
theorem joinPieces_unit {u : Nat} (h : isHighHalf u = false) (pieces : List Piece) :
    joinPieces (.unit u :: pieces) = unitPoint u :: joinPieces pieces := by
  rcases pieces with _ | ⟨c | low, r⟩
  · rfl
  · rw [joinPieces, joinPieces]
  · rw [joinPieces, h]
    rfl

theorem joinPieces_pair {c : Char} (h : 0x10000 ≤ c.toNat) (pieces : List Piece) :
    joinPieces (.unit (0xd800 + (c.toNat - 0x10000) / 0x400) ::
      .unit (0xdc00 + (c.toNat - 0x10000) % 0x400) :: pieces) = .char c :: joinPieces pieces := by
  have hvalid : c.toNat < 0xd800 ∨ 0xdfff < c.toNat ∧ c.toNat < 0x110000 := c.valid
  -- Ten bits of what lies beyond the first 65536 code points go into each half.
  have hhigh : isHighHalf (0xd800 + (c.toNat - 0x10000) / 0x400) = true := by
    simp only [isHighHalf, Bool.and_eq_true, decide_eq_true_eq]
    omega
  have hlow : isLowHalf (0xdc00 + (c.toNat - 0x10000) % 0x400) = true := by
    simp only [isLowHalf, Bool.and_eq_true, decide_eq_true_eq]
    omega
  have hvalue : 0x10000 + (0xd800 + (c.toNat - 0x10000) / 0x400 - 0xd800) * 0x400 +
      (0xdc00 + (c.toNat - 0x10000) % 0x400 - 0xdc00) = c.toNat := by omega
  have hpair : pairChar (0xd800 + (c.toNat - 0x10000) / 0x400)
      (0xdc00 + (c.toNat - 0x10000) % 0x400) = c := by
    rw [pairChar, hvalue, Char.ofNat_toNat]
  rw [joinPieces, hhigh, hlow, hpair]
  rfl

/-- The pieces of a written code point make the code point. -/
theorem CharWritten.exists_pieces {c : Char} {s : Text} (h : CharWritten c s) :
    ∃ pieces, (∀ t, readPieces (s ++ t) = (readPieces t).map fun p => (pieces ++ p.1, p.2)) ∧
      ∀ rest, joinPieces (pieces ++ rest) = .char c :: joinPieces rest := by
  rcases h with ⟨hquote, hslash, hcontrol⟩ | hshort | hunit | ⟨hbeyond, hhigh, hlow⟩
  · exact ⟨[.literal c], readPieces_literal hquote hslash hcontrol, fun rest => rfl⟩
  · exact ⟨[.literal c], readPieces_short hshort, fun rest => rfl⟩
  · refine ⟨[.unit c.toNat], hunit.readPieces_append, fun rest => ?_⟩
    -- A code point is no half, so that the unit is not taken for the first one of a pair.
    show joinPieces (.unit c.toNat :: rest) = _
    rw [joinPieces_unit (not_half c), unitPoint_toNat]
  · refine ⟨[.unit _, .unit _], fun t => ?_, joinPieces_pair hbeyond⟩
    rw [List.append_assoc, hhigh.readPieces_append, hlow.readPieces_append, Option.map_map]
    rfl

/-- A written string is read up to its closing quote. -/
theorem TextWritten.readString_append {t s : Text} (h : TextWritten t s) (rest : Text) :
    readString (s ++ '"' :: rest) = .ok (Decoded.ofText t, rest) := by
  -- The pieces of the whole are those of its code points, and no piece joins with one of the next.
  have hread : ∃ pieces, readPieces (s ++ '"' :: rest) = some (pieces, rest) ∧
      joinPieces pieces = Decoded.ofText t := by
    induction h with
    | nil => exact ⟨[], by rw [List.nil_append, readPieces], rfl⟩
    | @cons c t s r hc _ ih =>
      obtain ⟨front, hfront, hjoin⟩ := hc.exists_pieces
      obtain ⟨pieces, hpieces, hrest⟩ := ih
      refine ⟨front ++ pieces, ?_, ?_⟩
      · rw [List.append_assoc, hfront, hpieces]
        rfl
      · rw [hjoin, hrest]
        rfl
  obtain ⟨pieces, hpieces, hjoin⟩ := hread
  rw [readString, hpieces]
  exact congrArg (fun name => Except.ok (name, rest)) hjoin

/-! ### Tokens -/

inductive Token
  | opening
  | closing
  | colon
  | comma
  | flag (value : Bool)
  | string (value : Text)
  deriving DecidableEq, Repr

/-- A token as it may be written. -/
inductive TokenWritten : Token → Text → Prop
  | opening : TokenWritten .opening ['\x7b']
  | closing : TokenWritten .closing ['\x7d']
  | colon : TokenWritten .colon [':']
  | comma : TokenWritten .comma [',']
  | flagTrue : TokenWritten (.flag true) "true".toList
  | flagFalse : TokenWritten (.flag false) "false".toList
  | string {t s : Text} (h : TextWritten t s) : TokenWritten (.string t) ('"' :: (s ++ ['"']))

def IsGap (t : Text) : Prop := ∀ c ∈ t, c ∈ [' ', '\t', '\n', '\r']

instance (t : Text) : Decidable (IsGap t) :=
  decidable_of_iff (t.all (fun c => [' ', '\t', '\n', '\r'].contains c) = true) (by simp [IsGap])

/-- A text of these tokens, with white space around each. -/
inductive Spelled : List Token → Text → Prop
  | nil {g : Text} (hg : IsGap g) : Spelled [] g
  | cons {token : Token} {tokens : List Token} {g s t : Text} (hg : IsGap g)
      (hs : TokenWritten token s) (ht : Spelled tokens t) :
      Spelled (token :: tokens) (g ++ (s ++ t))

theorem IsGap.isGap_eq {g : Text} (h : IsGap g) : ∀ c ∈ g, isGap c = true := by
  have hall : [' ', '\t', '\n', '\r'].all isGap = true := rfl
  exact fun c hc => List.all_eq_true.1 hall c (h c hc)

/-- A written token starts with a code point of its own. -/
theorem TokenWritten.exists_cons {token : Token} {s : Text} (h : TokenWritten token s) :
    ∃ c r, s = c :: r ∧ isGap c = false ∧ 0x20 ≤ c.toNat := by
  cases h <;> exact ⟨_, _, rfl, by decide, by decide⟩

/-- After the white space comes the first token. -/
theorem Spelled.exists_of_cons {token : Token} {tokens : List Token} {t : Text}
    (h : Spelled (token :: tokens) t) :
    ∃ s r, skipGap t = s ++ r ∧ TokenWritten token s ∧ Spelled tokens r ∧
      s.length + r.length ≤ t.length := by
  rcases h with _ | ⟨hg, hs, hr⟩
  rename_i g s r
  refine ⟨s, r, ?_, hs, hr, ?_⟩
  · obtain ⟨c, s, rfl, hc, -⟩ := hs.exists_cons
    -- No token starts with white space, so the gap ends where the token begins.
    refine Text.dropWhile_append_of_head? hg.isGap_eq ?_
    rintro d ⟨⟩
    exact hc
  · rw [List.length_append, List.length_append]
    omega

/-- A text of tokens is not empty, so what bounds its length leaves a step to take. -/
theorem Spelled.exists_fuel {token : Token} {tokens : List Token} {t : Text}
    (h : Spelled (token :: tokens) t) {fuel : Nat} (hfuel : t.length ≤ fuel) :
    ∃ n, fuel = n + 1 := by
  obtain ⟨s, r, -, hs, -, hlength⟩ := h.exists_of_cons
  obtain ⟨c, s, rfl, -⟩ := hs.exists_cons
  rw [List.length_cons] at hlength
  apply Nat.exists_eq_add_one_of_ne_zero
  omega

/-! ### Reading values -/

/-- These tokens are read as this value where so many levels are left, whatever follows them and
however they are spelled. -/
def ReadsAs (levels : Nat) (tokens : List Token) (v : Json) : Prop :=
  ∀ rest t fuel left, Spelled (tokens ++ rest) t → t.length ≤ fuel → levels ≤ left →
    ∃ r, readValue fuel left (skipGap t) = .ok (v, r) ∧ Spelled rest r ∧ r.length < t.length

theorem readsAs_flag (value : Bool) : ReadsAs 0 [.flag value] (.bool value) := by
  intro rest t fuel left ht hfuel _
  obtain ⟨s, r, hskip, hs, hr, hlength⟩ := ht.exists_of_cons
  obtain ⟨c, s', rfl, -⟩ := hs.exists_cons
  rw [List.length_cons] at hlength
  obtain ⟨fuel, rfl⟩ := ht.exists_fuel hfuel
  refine ⟨r, ?_, hr, by omega⟩
  rw [hskip]
  cases hs <;> cases left <;> rfl

section Object

variable {β : Type} (valueTokens : β → List Token)

def memberTokens (member : Text × β) : List Token :=
  .string member.1 :: .colon :: valueTokens member.2

def objectTokens (members : List (Text × β)) : List Token :=
  .opening :: ([.comma].intercalate (members.map (memberTokens valueTokens)) ++ [.closing])

end Object

/-- A member is read up to the comma or the brace that follows it. -/
theorem exists_readMembers_eq {name : Text} {tokens more : List Token} {v : Json} {t : Text}
    {levels fuel left : Nat} (hv : ReadsAs levels tokens v)
    (ht : Spelled (.string name :: .colon :: (tokens ++ more)) t) (hfuel : t.length ≤ fuel + 1)
    (hleft : levels ≤ left) :
    ∃ r, Spelled more r ∧ r.length < t.length ∧
      (∀ next, skipGap r = ',' :: next → readMembers (fuel + 1) left (skipGap t) =
        (readMembers fuel left (skipGap next)).map fun p =>
          ((Decoded.ofText name, v) :: p.1, p.2)) ∧
      ∀ next, skipGap r = '\x7d' :: next →
        readMembers (fuel + 1) left (skipGap t) = .ok ([(Decoded.ofText name, v)], next) := by
  obtain ⟨s, afterName, hskip, hs, hname, hlength⟩ := ht.exists_of_cons
  obtain ⟨colon, afterColon, hskip', hcolon, hvalue, hlength'⟩ := hname.exists_of_cons
  rcases hs with _ | _ | _ | _ | _ | _ | hs
  rename_i s
  cases hcolon
  rw [List.length_cons] at hlength hlength'
  obtain ⟨r, hread, hr, hlength''⟩ := hv more afterColon fuel left hvalue (by omega) hleft
  have hstring := hs.readString_append afterName
  have hmember : skipGap t = '"' :: (s ++ '"' :: afterName) := by
    rw [hskip, List.cons_append, List.append_assoc, List.singleton_append]
  -- A comma asks for more members, a brace ends them.
  refine ⟨r, hr, by omega, ?_, ?_⟩
  · intro next hnext
    rw [hmember, readMembers]
    simp only [hstring, hskip', List.singleton_append, hread, hnext, bind, Except.bind]
    rfl
  · intro next hnext
    rw [hmember, readMembers]
    simp only [hstring, hskip', List.singleton_append, hread, hnext, bind, Except.bind]
    rfl

/-- The members of an object are read up to the brace that closes it. -/
theorem exists_readMembers {β : Type} {valueTokens : β → List Token} {value : β → Json}
    {levels : Nat} {members : List (Text × β)} (hne : members ≠ [])
    (h : ∀ m ∈ members, ReadsAs levels (valueTokens m.2) (value m.2)) {rest : List Token}
    {t : Text} {fuel left : Nat}
    (ht : Spelled ([Token.comma].intercalate (members.map (memberTokens valueTokens)) ++
      .closing :: rest) t) (hfuel : t.length ≤ fuel) (hleft : levels ≤ left) :
    ∃ r, readMembers fuel left (skipGap t) =
        .ok (members.map fun m => (Decoded.ofText m.1, value m.2), r) ∧
      Spelled rest r ∧ r.length < t.length := by
  induction members generalizing t fuel with
  | nil => exact absurd rfl hne
  | cons m ms ih =>
    rw [List.forall_mem_cons] at h
    cases ms with
    | nil =>
      rw [List.map_singleton, List.intercalate_singleton] at ht
      obtain ⟨fuel, rfl⟩ := ht.exists_fuel hfuel
      obtain ⟨r, hr, hlength, -, hclose⟩ := exists_readMembers_eq h.1 ht hfuel hleft
      obtain ⟨brace, next, hskip, hbrace, hnext, hlength'⟩ := hr.exists_of_cons
      cases hbrace
      rw [List.length_singleton] at hlength'
      exact ⟨next, hclose next hskip, hnext, by omega⟩
    | cons n ms =>
      rw [List.map_cons, List.map_cons, List.intercalate_cons_cons, ← List.map_cons,
        List.append_assoc, List.append_assoc] at ht
      -- Every member takes up code points, so that the fuel lasts.
      obtain ⟨fuel, rfl⟩ := ht.exists_fuel hfuel
      obtain ⟨r, hr, hlength, hcomma, -⟩ := exists_readMembers_eq h.1 ht hfuel hleft
      obtain ⟨comma, next, hskip, hc, hnext, hlength'⟩ := hr.exists_of_cons
      cases hc
      rw [List.length_singleton] at hlength'
      obtain ⟨r', hread, hr', hlength''⟩ :=
        ih (List.cons_ne_nil _ _) h.2 hnext (show next.length ≤ fuel by omega)
      exact ⟨r', by rw [hcomma next hskip, hread]; rfl, hr', by omega⟩

/-- The tokens of an object are read as the object, if those of its values are read as the values
one level further in. -/
theorem readsAs_object {β : Type} {valueTokens : β → List Token} {value : β → Json}
    {levels : Nat} {members : List (Text × β)}
    (h : ∀ m ∈ members, ReadsAs levels (valueTokens m.2) (value m.2)) :
    ReadsAs (levels + 1) (objectTokens valueTokens members)
      (.object (members.map fun m => (Decoded.ofText m.1, value m.2))) := by
  intro rest t fuel left ht hfuel hleft
  obtain ⟨left, rfl⟩ := Nat.exists_eq_add_one_of_ne_zero (Nat.ne_of_gt (Nat.zero_lt_of_lt hleft))
  rw [objectTokens, List.cons_append, List.append_assoc] at ht
  obtain ⟨fuel, rfl⟩ := ht.exists_fuel hfuel
  obtain ⟨brace, body, hskip, hbrace, hbody, hlength⟩ := ht.exists_of_cons
  cases hbrace
  rw [List.length_singleton] at hlength
  rw [hskip, List.singleton_append, readValue]
  cases members with
  | nil =>
    obtain ⟨brace, r, hskip', hbrace, hr, hlength'⟩ := hbody.exists_of_cons
    cases hbrace
    rw [List.length_singleton] at hlength'
    refine ⟨r, ?_, hr, by omega⟩
    rw [hskip']
    rfl
  | cons m ms =>
    obtain ⟨r, hread, hr, hlength'⟩ :=
      exists_readMembers (List.cons_ne_nil _ _) h hbody (show body.length ≤ fuel by omega)
        (Nat.le_of_succ_le_succ hleft)
    refine ⟨r, ?_, hr, by omega⟩
    split
    -- What starts with a closing brace is no member.
    · next heq =>
      rw [heq] at hread
      cases fuel <;> cases hread
    · rw [hread]
      rfl

/-- What a text is read as depends on its tokens alone, where there are levels enough. -/
theorem ReadsAs.ofText_eq {levels left : Nat} {tokens : List Token} {v : Json}
    (h : ReadsAs levels tokens v) (hleft : levels ≤ left) {t : Text} (ht : Spelled tokens t) :
    ofText left t = .ok v := by
  obtain ⟨r, hread, hr, -⟩ :=
    h [] t (2 * t.length + 2) left (by rwa [List.append_nil]) (by omega) hleft
  rcases hr with ⟨hg⟩
  have hskip : skipGap r = [] := by
    have hall := Text.dropWhile_append_of_head? (r := []) hg.isGap_eq (by simp)
    rwa [List.append_nil] at hall
  rw [ofText, hread]
  show (if skipGap r = [] then _ else _) = _
  rw [if_pos hskip]
  rfl

/-! ### Depth -/

theorem readValue_of_openings (t : Text) {levels fuel : Nat} (hfuel : 2 * levels < fuel) :
    readValue fuel levels (List.replicate (levels + 1) '[' ++ t) = .error (.tooDeep .array) := by
  obtain ⟨fuel, rfl⟩ := Nat.exists_eq_add_one_of_ne_zero (Nat.ne_of_gt (Nat.zero_lt_of_lt hfuel))
  induction levels generalizing fuel with
  | zero => rfl
  | succ levels ih =>
    -- A level takes two steps, one for the array and one for its first item.
    obtain ⟨fuel, rfl⟩ : ∃ n, fuel = n + 2 := ⟨fuel - 2, by omega⟩
    have hvalue := ih fuel (by omega)
    have hitems : readItems (fuel + 2) levels (List.replicate (levels + 1) '[' ++ t) =
        .error (.tooDeep .array) := by
      rw [readItems, hvalue]
      rfl
    rw [List.replicate_succ, List.cons_append, readValue]
    show (readItems (fuel + 2) levels (List.replicate (levels + 1) '[' ++ t)).map _ = _
    rw [hitems]
    rfl

/-- A text that starts with more brackets than there are levels is given up. -/
theorem ofText_of_openings (levels : Nat) (t : Text) :
    ofText levels (List.replicate (levels + 1) '[' ++ t) = .error (.tooDeep .array) := by
  have hskip : skipGap (List.replicate (levels + 1) '[' ++ t) =
      List.replicate (levels + 1) '[' ++ t := rfl
  rw [ofText, hskip, readValue_of_openings]
  · rfl
  · rw [List.length_append, List.length_replicate]
    omega

/-! ### Ends of line -/

/-- A text without the control codes that JSON does not let a string hold as they are. -/
def NoControl (t : Text) : Prop := ∀ c ∈ t, 0x20 ≤ c.toNat

theorem noControl_of_all {t : Text} (h : t.all (fun c => 0x20 ≤ c.toNat) = true) : NoControl t := by
  intro c hc
  exact of_decide_eq_true (List.all_eq_true.1 h c hc)

theorem NoControl.append {s t : Text} (hs : NoControl s) (ht : NoControl t) : NoControl (s ++ t) :=
  List.forall_mem_append.2 ⟨hs, ht⟩

theorem CharWritten.noControl {c : Char} {s : Text} (h : CharWritten c s) : NoControl s := by
  have hdigit : ∀ {value : Nat} {d : Char}, IsHexDigit value d → 0x20 ≤ d.toNat := by
    have hsmall : NoControl "0123456789abcdef".toList := noControl_of_all rfl
    have hcapital : NoControl "0123456789ABCDEF".toList := noControl_of_all rfl
    intro value d hd
    rcases hd with hd | hd
    · exact hsmall d (List.mem_of_getElem? hd)
    · exact hcapital d (List.mem_of_getElem? hd)
  have hunit : ∀ {u : Nat} {s : Text}, UnitWritten u s → NoControl s := by
    rintro u s ⟨ha, hb, hc, hd⟩
    simp only [NoControl, List.forall_mem_cons]
    exact ⟨by decide, by decide, hdigit ha, hdigit hb, hdigit hc, hdigit hd, by simp⟩
  rcases h with ⟨-, -, hcontrol⟩ | hshort | hunits | ⟨-, hhigh, hlow⟩
  · exact List.forall_mem_singleton.2 hcontrol
  · have hletters : NoControl (shortEscapes.map Prod.fst) := noControl_of_all rfl
    have hletter := hletters _ (List.mem_map_of_mem hshort)
    exact List.forall_mem_cons.2 ⟨by decide, List.forall_mem_singleton.2 hletter⟩
  · exact hunit hunits
  · exact (hunit hhigh).append (hunit hlow)

/-- No end of line stands inside a token. -/
theorem TokenWritten.noControl {token : Token} {s : Text} (h : TokenWritten token s) :
    NoControl s := by
  rcases h with _ | _ | _ | _ | _ | _ | hs
  · exact noControl_of_all rfl
  · exact noControl_of_all rfl
  · exact noControl_of_all rfl
  · exact noControl_of_all rfl
  · exact noControl_of_all rfl
  · exact noControl_of_all rfl
  · have hquote : NoControl ['"'] := noControl_of_all rfl
    have hbody : ∀ {t s : Text}, TextWritten t s → NoControl s := by
      intro t s hs
      induction hs with
      | nil => exact noControl_of_all rfl
      | cons hc _ ih => exact hc.noControl.append ih
    exact hquote.append ((hbody hs).append hquote)

/-- White space whose ends of line are changed is white space, if no line feed follows it. -/
theorem IsGap.exists_unifyNewlines_append {g : Text} (hg : IsGap g) {t : Text}
    (ht : t.head? ≠ some '\n') :
    ∃ g', IsGap g' ∧ Text.unifyNewlines (g ++ t) = g' ++ Text.unifyNewlines t := by
  have hfeed : '\n' ∈ [' ', '\t', '\n', '\r'] := by decide
  fun_induction Text.unifyNewlines g with
  | case1 => exact ⟨[], hg, rfl⟩
  | case2 r ih =>
    rw [IsGap, List.forall_mem_cons, List.forall_mem_cons] at hg
    obtain ⟨g', hg', heq⟩ := ih hg.2.2
    refine ⟨'\n' :: g', List.forall_mem_cons.2 ⟨hfeed, hg'⟩, ?_⟩
    rw [List.cons_append, List.cons_append, Text.unifyNewlines, heq, List.cons_append]
  | case3 r hr ih =>
    rw [IsGap, List.forall_mem_cons] at hg
    obtain ⟨g', hg', heq⟩ := ih hg.2
    refine ⟨'\n' :: g', List.forall_mem_cons.2 ⟨hfeed, hg'⟩, ?_⟩
    rw [List.cons_append, Text.unifyNewlines, heq, List.cons_append]
    -- The carriage return stands alone.
    intro r' h
    cases r with
    | nil => exact ht (by rw [List.nil_append] at h; rw [h]; rfl)
    | cons c r =>
      obtain ⟨rfl, -⟩ := List.cons.inj h
      exact hr r rfl
  | case4 c r _ hc ih =>
    rw [IsGap, List.forall_mem_cons] at hg
    obtain ⟨g', hg', heq⟩ := ih hg.2
    refine ⟨c :: g', List.forall_mem_cons.2 ⟨hg.1, hg'⟩, ?_⟩
    rw [List.cons_append, Text.unifyNewlines_cons hc, heq, List.cons_append]

/-- Changed ends of line leave the tokens alone. -/
theorem Spelled.unifyNewlines {tokens : List Token} {t : Text} (h : Spelled tokens t) :
    Spelled tokens (Text.unifyNewlines t) := by
  induction h with
  | nil hg =>
    obtain ⟨g', hg', heq⟩ := hg.exists_unifyNewlines_append (t := []) (by simp)
    rw [List.append_nil] at heq
    rw [heq]
    exact .nil (List.forall_mem_append.2 ⟨hg', by simp [Text.unifyNewlines]⟩)
  | cons hg hs _ ih =>
    have hcontrol := hs.noControl
    have hreturn : ∀ c ∈ _, c ≠ '\r' := fun c hc => by
      rintro rfl
      exact absurd (hcontrol _ hc) (by decide)
    obtain ⟨c, r, rfl, -, hc⟩ := hs.exists_cons
    obtain ⟨g', hg', heq⟩ := hg.exists_unifyNewlines_append (t := (c :: r) ++ _) (by
      rintro ⟨⟩
      exact absurd hc (by decide))
    rw [heq, Text.unifyNewlines_append hreturn]
    exact .cons hg' hs ih

end Json

end EscapeClause
