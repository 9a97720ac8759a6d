import Mathlib.Tactic.Common
import EscapeClause.Outline

/-!
# The grammar of escaped text

A well-formed escaped text is a sequence of items: plain code points, closed quoted regions, and
closed clauses whose argument tails are sequences of items again. `Items` is the type of these
derivations. Each constructor carries the side condition of its rule, so an ill-formed derivation
cannot be written down, and `Items.spelling` is the text that a derivation derives.

The grammar is unambiguous (`Items.spelling_injective`): what a sequence spells, followed by the
end of the text or by a closing brace, can be cut off again in one way only
(`Items.eq_of_spelling_append`).
-/

namespace EscapeClause

/-- Whether a code point stands for itself: it opens no quote and is no brace. -/
def isPlain (c : Char) : Bool := (Quote.ofOpener? c).isNone && c != '\x7b' && c != '\x7d'

/-- Whether a code point can be part of a keyword. Quotes and opening braces can. -/
def isKeywordChar (c : Char) : Bool := !Text.isBlank c && c != '\x7d'

/-! ### Classes of code points -/

theorem isPlain_iff {c : Char} :
    isPlain c = true ↔ Quote.ofOpener? c = none ∧ c ≠ '\x7b' ∧ c ≠ '\x7d' := by
  simp [isPlain, and_assoc]

theorem isKeywordChar_iff {c : Char} :
    isKeywordChar c = true ↔ Text.isBlank c = false ∧ c ≠ '\x7d' := by
  simp [isKeywordChar]

/-- White space is plain. -/
theorem isPlain_of_isBlank {c : Char} (hc : Text.isBlank c = true) : isPlain c = true := by
  have ne : ∀ d, Text.isBlank d = false → c ≠ d := by
    rintro d hd rfl
    rw [hd] at hc
    cases hc
  rw [isPlain_iff, Quote.ofOpener?, if_neg (ne _ (by decide)), if_neg (ne _ (by decide)),
    if_neg (ne _ (by decide))]
  exact ⟨rfl, ne _ (by decide), ne _ (by decide)⟩

theorem isPlain_opener (q : Quote) : isPlain q.opener = false := by cases q <;> decide

theorem not_isKeywordChar_of_isBlank {c : Char} (hc : Text.isBlank c = true) :
    isKeywordChar c = false := by
  simp [isKeywordChar, hc]

/-- What ends a keyword is white space or a closing brace. -/
theorem isKeywordChar_eq_false_iff {c : Char} :
    isKeywordChar c = false ↔ Text.isBlank c = true ∨ c = '\x7d' := by
  rw [← Bool.not_eq_true, isKeywordChar_iff, not_and_or, Bool.not_eq_false, not_not]

/-! ### Derivations -/

/-- A clause's keyword: neither empty nor cut short by white space or a closing brace. -/
@[ext] structure Keyword where
  text : Text
  ne_nil : text ≠ []
  all_isKeywordChar : ∀ c ∈ text, isKeywordChar c = true

inductive Items
  | nil
  | plain (c : Char) (hc : isPlain c = true) (rest : Items)
  | quoted (q : Quote) (body : Text) (hb : q.closer ∉ body) (rest : Items)
  | bare (k : Keyword) (rest : Items)
  /-- A clause with an argument tail; the tail starts with the white space `c`. -/
  | clause (k : Keyword) (c : Char) (hc : Text.isBlank c = true) (tail rest : Items)

namespace Items

/-- The text that a sequence of items derives. -/
def spelling : Items → Text
  | nil => []
  | plain c _ rest => c :: rest.spelling
  | quoted q body _ rest => q.opener :: (body ++ q.closer :: rest.spelling)
  | bare k rest => '\x7b' :: (k.text ++ '\x7d' :: rest.spelling)
  | clause k c _ tail rest =>
    '\x7b' :: (k.text ++ c :: (tail.spelling ++ '\x7d' :: rest.spelling))

/-- The keywords of all clauses, those in argument tails too, as they are written. -/
def keywords : Items → List Text
  | nil => []
  | plain _ _ rest => rest.keywords
  | quoted _ _ _ rest => rest.keywords
  | bare k rest => k.text :: rest.keywords
  | clause k _ _ tail rest => k.text :: (tail.keywords ++ rest.keywords)

def append : Items → Items → Items
  | nil, i => i
  | plain c hc rest, i => plain c hc (rest.append i)
  | quoted q body hb rest, i => quoted q body hb (rest.append i)
  | bare k rest, i => bare k (rest.append i)
  | clause k c hc tail rest, i => clause k c hc tail (rest.append i)

@[simp] theorem spelling_append (i j : Items) :
    (i.append j).spelling = i.spelling ++ j.spelling := by
  induction i with
  | nil => rfl
  | plain c hc rest ih => simp [append, spelling, ih]
  | quoted q body hb rest ih => simp [append, spelling, ih]
  | bare k rest ih => simp [append, spelling, ih]
  | clause k c hc tail rest _ ih => simp [append, spelling, ih]

/-- A sequence whose text starts with white space starts with that code point as an item. -/
theorem eq_plain_of_spelling_cons {i : Items} {c : Char} {t : Text}
    (hc : Text.isBlank c = true) (h : i.spelling = c :: t) :
    ∃ rest : Items, i = plain c (isPlain_of_isBlank hc) rest ∧ rest.spelling = t := by
  have hplain := isPlain_of_isBlank hc
  -- Every other item starts with something that is not plain.
  cases i with
  | nil => cases h
  | plain d hd rest =>
    cases h
    exact ⟨rest, rfl, rfl⟩
  | quoted q body hb rest =>
    cases h
    rw [isPlain_opener] at hplain
    cases hplain
  | bare k rest => cases h; cases hplain
  | clause k d hd tail rest => cases h; cases hplain

/-- A clause around a tail that is empty or starts with white space. -/
theorem exists_clause (k : Keyword) {tail : Items} (rest : Items)
    (htail : ∀ c ∈ tail.spelling.head?, Text.isBlank c = true) :
    ∃ i : Items, i.spelling = '\x7b' :: (k.text ++ (tail.spelling ++ '\x7d' :: rest.spelling)) ∧
      i.keywords = k.text :: (tail.keywords ++ rest.keywords) := by
  -- A tail that spells nothing makes the clause bare; any other one gives up its white space.
  cases hs : tail.spelling with
  | nil =>
    obtain rfl : tail = nil := by
      cases tail with
      | nil => rfl
      | _ => cases hs
    exact ⟨bare k rest, rfl, rfl⟩
  | cons c t =>
    have hc : Text.isBlank c = true := htail c (by rw [hs]; rfl)
    obtain ⟨more, rfl, rfl⟩ := eq_plain_of_spelling_cons hc hs
    exact ⟨clause k c hc more rest, rfl, rfl⟩

/-! ### Unambiguity -/

/-- The text ends here, or a clause does. -/
def Ends (t : Text) : Prop := ∀ c ∈ t.head?, c = '\x7d'

theorem ends_nil : Ends [] := by simp [Ends]

theorem ends_brace (t : Text) : Ends ('\x7d' :: t) := by simp [Ends]

theorem not_ends_spelling_append {i : Items} {t u : Text} (h : i.spelling ++ t = u)
    (hi : i ≠ nil) : ¬ Ends u := by
  subst h
  cases i with
  | nil => exact absurd rfl hi
  | plain c hc rest =>
    intro he
    exact (isPlain_iff.1 hc).2.2 (he c rfl)
  | quoted q body hb rest =>
    intro he
    -- No opener is a closing brace.
    have := he q.opener rfl
    cases q <;> exact absurd this (by decide)
  | bare k rest => intro he; exact absurd (he _ rfl) (by decide)
  | clause k c hc tail rest => intro he; exact absurd (he _ rfl) (by decide)

theorem spelling_append_of_closer {q : Quote} {body body' r r' : Text} (hb : q.closer ∉ body)
    (hb' : q.closer ∉ body') (h : body ++ q.closer :: r = body' ++ q.closer :: r') :
    body = body' ∧ r = r' := by
  -- The body is the longest stretch without the closer, on both sides.
  have hall : ∀ {b : Text}, q.closer ∉ b → ∀ x ∈ b, (x != q.closer) = true := by
    intro b hb x hx
    rw [bne_iff_ne]
    rintro rfl
    exact hb hx
  obtain ⟨hbody, hrest⟩ :=
    Text.append_inj_of_head? (hall hb) (hall hb') (by simp) (by simp) h
  exact ⟨hbody, (List.cons.inj hrest).2⟩

theorem keyword_append_cons {k k' : Keyword} {c c' : Char} {r r' : Text}
    (hc : isKeywordChar c = false) (hc' : isKeywordChar c' = false)
    (h : k.text ++ c :: r = k'.text ++ c' :: r') : k = k' ∧ c = c' ∧ r = r' := by
  obtain ⟨hk, hrest⟩ := Text.append_inj_of_head? k.all_isKeywordChar k'.all_isKeywordChar
    (by simpa using hc) (by simpa using hc') h
  exact ⟨Keyword.ext hk, List.cons.inj hrest⟩

/-- What starts like a quoted region does not start with a plain code point. -/
theorem isPlain_eq_false_of_quoted {c : Char} {q : Quote} {s t : Text}
    (h : c :: s = q.opener :: t) : isPlain c = false := by
  rw [(List.cons.inj h).1, isPlain_opener]

theorem isPlain_eq_false_of_brace {c : Char} {s t : Text} (h : c :: s = '\x7b' :: t) :
    isPlain c = false := by
  rw [(List.cons.inj h).1]
  rfl

theorem opener_cons_ne_brace {q : Quote} {s t : Text} : q.opener :: s ≠ '\x7b' :: t := by
  intro h
  cases q <;> exact absurd (List.cons.inj h).1 (by decide)

/-- Of two texts that each start with a sequence of items and go on with the end of the text or
with a closing brace, the sequences are the same if the texts are. -/
theorem eq_of_spelling_append {i j : Items} {t u : Text} (ht : Ends t) (hu : Ends u)
    (h : i.spelling ++ t = j.spelling ++ u) : i = j ∧ t = u := by
  induction i generalizing j t u with
  | nil =>
    by_cases hj : j = nil
    · subst hj
      exact ⟨rfl, h⟩
    · exact absurd ht (not_ends_spelling_append h.symm hj)
  | plain c hc rest ih =>
    cases j with
    | nil => exact absurd hu (not_ends_spelling_append h (by simp))
    | plain d hd rest' =>
      obtain ⟨rfl, hrest⟩ := List.cons.inj h
      obtain ⟨rfl, rfl⟩ := ih ht hu hrest
      exact ⟨rfl, rfl⟩
    | quoted q body hb rest' => exact absurd hc (by rw [isPlain_eq_false_of_quoted h]; decide)
    | bare k rest' => exact absurd hc (by rw [isPlain_eq_false_of_brace h]; decide)
    | clause k d hd tail rest' => exact absurd hc (by rw [isPlain_eq_false_of_brace h]; decide)
  | quoted q body hb rest ih =>
    cases j with
    | nil => exact absurd hu (not_ends_spelling_append h (by simp))
    | plain d hd rest' => exact absurd hd (by rw [isPlain_eq_false_of_quoted h.symm]; decide)
    | quoted q' body' hb' rest' =>
      simp only [spelling, List.cons_append, List.append_assoc] at h
      obtain ⟨hq, hbody⟩ := List.cons.inj h
      obtain rfl : q = q' := by
        have := congrArg Quote.ofOpener? hq
        simpa using this
      obtain ⟨rfl, hrest⟩ := spelling_append_of_closer hb hb' hbody
      obtain ⟨rfl, rfl⟩ := ih ht hu hrest
      exact ⟨rfl, rfl⟩
    | bare k rest' => exact absurd h opener_cons_ne_brace
    | clause k d hd tail rest' => exact absurd h opener_cons_ne_brace
  | bare k rest ih =>
    cases j with
    | nil => exact absurd hu (not_ends_spelling_append h (by simp))
    | plain d hd rest' => exact absurd hd (by rw [isPlain_eq_false_of_brace h.symm]; decide)
    | quoted q body hb rest' => exact absurd h.symm opener_cons_ne_brace
    | bare k' rest' =>
      simp only [spelling, List.cons_append, List.append_assoc] at h
      obtain ⟨rfl, -, hrest⟩ := keyword_append_cons (by decide) (by decide) (List.cons.inj h).2
      obtain ⟨rfl, rfl⟩ := ih ht hu hrest
      exact ⟨rfl, rfl⟩
    | clause k' d hd tail rest' =>
      simp only [spelling, List.cons_append, List.append_assoc] at h
      obtain ⟨-, rfl, -⟩ := keyword_append_cons (by decide)
        (not_isKeywordChar_of_isBlank hd) (List.cons.inj h).2
      cases hd
  | clause k c hc tail rest ihtail ih =>
    cases j with
    | nil => exact absurd hu (not_ends_spelling_append h (by simp))
    | plain d hd rest' => exact absurd hd (by rw [isPlain_eq_false_of_brace h.symm]; decide)
    | quoted q body hb rest' => exact absurd h.symm opener_cons_ne_brace
    | bare k' rest' =>
      simp only [spelling, List.cons_append, List.append_assoc] at h
      obtain ⟨-, rfl, -⟩ := keyword_append_cons (not_isKeywordChar_of_isBlank hc)
        (by decide) (List.cons.inj h).2
      cases hc
    | clause k' d hd tail' rest' =>
      simp only [spelling, List.cons_append, List.append_assoc] at h
      obtain ⟨rfl, rfl, hrest⟩ := keyword_append_cons (not_isKeywordChar_of_isBlank hc)
        (not_isKeywordChar_of_isBlank hd) (List.cons.inj h).2
      -- The tail ends at the first closing brace that its own clauses do not use.
      obtain ⟨rfl, hclose⟩ := ihtail (ends_brace _) (ends_brace _) hrest
      obtain ⟨rfl, rfl⟩ := ih ht hu (List.cons.inj hclose).2
      exact ⟨rfl, rfl⟩

/-- A text is derived in at most one way. -/
theorem spelling_injective {i j : Items} (h : i.spelling = j.spelling) : i = j :=
  (eq_of_spelling_append ends_nil ends_nil (by rw [h])).1

end Items

end EscapeClause
