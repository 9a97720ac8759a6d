import EscapeClause.Console.Markup
import Mathlib.Data.List.Basic

/-!
# What escaped text prints

A text without backslashes and colons is cut into code points and tags that no backslash stands
before (`Cuts`). Escaping puts one backslash before each of these tags, which makes them plain text
again, so such a text prints as it is (`render_escape`).
-/

namespace EscapeClause.Console.Markup

/-! ### Tags -/

/-- What stands between the brackets of a tag. -/
structure IsTag (body : Text) : Prop where
  starts : ∃ c r, body = c :: r ∧ startsTag c = true
  closed : ∀ c ∈ body, c ≠ ']' ∧ c ≠ '['

theorem upToClosing?_eq_some {t body rest : Text} (h : upToClosing? t = some (body, rest)) :
    t = body ++ ']' :: rest ∧ ∀ c ∈ body, c ≠ ']' ∧ c ≠ '[' := by
  induction t generalizing body with
  | nil => cases h
  | cons c r ih =>
    rw [upToClosing?] at h
    split at h
    · next hc =>
      cases h
      exact ⟨by rw [hc]; rfl, List.forall_mem_nil _⟩
    · next hclosing =>
      split at h
      · cases h
      · next hopening =>
        obtain ⟨⟨body, rest⟩, hp, heq⟩ := Option.map_eq_some_iff.1 h
        cases heq
        obtain ⟨rfl, hbody⟩ := ih hp
        exact ⟨rfl, List.forall_mem_cons.2 ⟨⟨hclosing, hopening⟩, hbody⟩⟩

theorem upToClosing?_append {body : Text} (h : ∀ c ∈ body, c ≠ ']' ∧ c ≠ '[') (rest : Text) :
    upToClosing? (body ++ ']' :: rest) = some (body, rest) := by
  induction body with
  | nil => rfl
  | cons c r ih =>
    rw [List.forall_mem_cons] at h
    rw [List.cons_append, upToClosing?, if_neg h.1.1, if_neg h.1.2, ih h.2]
    rfl

theorem tag?_eq_some {t body rest : Text} (h : tag? t = some (body, rest)) :
    t = body ++ ']' :: rest ∧ IsTag body := by
  cases t with
  | nil => cases h
  | cons c r =>
    rw [tag?] at h
    split at h
    · next hstarts =>
      obtain ⟨⟨body, rest⟩, hp, heq⟩ := Option.map_eq_some_iff.1 h
      cases heq
      obtain ⟨rfl, hbody⟩ := upToClosing?_eq_some hp
      -- A bracket does not start a tag, so there is none among the code points of its body.
      refine ⟨rfl, ⟨c, _, rfl, hstarts⟩, List.forall_mem_cons.2 ⟨⟨?_, ?_⟩, hbody⟩⟩ <;>
        · rintro rfl
          exact absurd hstarts (by decide)
    · cases h

theorem IsTag.tag?_append {body : Text} (h : IsTag body) (rest : Text) :
    tag? (body ++ ']' :: rest) = some (body, rest) := by
  obtain ⟨c, r, rfl, hstarts⟩ := h.starts
  rw [List.cons_append, tag?, if_pos hstarts,
    upToClosing?_append (List.forall_mem_cons.1 h.closed).2]
  rfl

/-! ### Pieces -/

/-- A text without backslashes and colons, and its pieces. -/
inductive Cuts : Text → List Piece → Prop
  | nil : Cuts [] []
  | char {c : Char} {t : Text} {ps : List Piece} (hslash : c ≠ '\\') (hcolon : c ≠ ':')
      (h : c = '[' → tag? t = none) (ht : Cuts t ps) : Cuts (c :: t) (.char c :: ps)
  | tag {body t : Text} {ps : List Piece} (hcolon : ':' ∉ body) (h : IsTag body) (ht : Cuts t ps) :
      Cuts ('[' :: (body ++ ']' :: t)) (.tag 0 body :: ps)

theorem cuts_pieces {t : Text} (h : ∀ c ∈ t, c ≠ '\\' ∧ c ≠ ':') : Cuts t (pieces t) := by
  -- A tag is longer than one code point, so the induction is on the length.
  induction hn : t.length using Nat.strongRecOn generalizing t with
  | ind n ih =>
    subst hn
    rw [pieces]
    cases t with
    | nil =>
      rw [piecesFrom]
      exact .nil
    | cons c r =>
      obtain ⟨⟨hslash, hcolon⟩, hr⟩ := List.forall_mem_cons.1 h
      have hrest := ih r.length (Nat.lt_succ_self _) hr rfl
      rw [piecesFrom, if_neg hslash]
      by_cases hc : c = '['
      · subst hc
        rw [if_pos rfl]
        split
        · next body rest htag =>
          obtain ⟨rfl, hbody⟩ := tag?_eq_some htag
          obtain ⟨hplain, hclosing⟩ := List.forall_mem_append.1 hr
          refine .tag (fun hmem => (hplain _ hmem).2 rfl) hbody ?_
          exact ih rest.length (by simp; omega) (List.forall_mem_cons.1 hclosing).2 rfl
        · next htag => exact .char hslash hcolon (fun _ => htag) hrest
      · rw [if_neg hc]
        exact .char hslash hcolon (fun heq => absurd heq hc) hrest

def escaped (ps : List Piece) : Text := ps.flatMap escapePiece

theorem escaped_tag (body : Text) (ps : List Piece) :
    escaped (.tag 0 body :: ps) = '\\' :: '[' :: (body ++ ']' :: escaped ps) := by
  show ['\\'] ++ ('[' :: body ++ [']']) ++ escaped ps = _
  simp

theorem Cuts.upToClosing?_escaped {t : Text} {ps : List Piece} (h : Cuts t ps)
    (hnone : upToClosing? t = none) : upToClosing? (escaped ps) = none := by
  induction h with
  | nil => rfl
  | @char c t ps _ _ _ _ ih =>
    show upToClosing? (c :: escaped ps) = none
    rw [upToClosing?] at hnone ⊢
    split at hnone
    · cases hnone
    · next hc =>
      rw [if_neg hc]
      split
      · rfl
      · next hopening =>
        rw [if_neg hopening, Option.map_eq_none_iff] at hnone
        rw [ih hnone]
        rfl
  -- The bracket of the next tag comes first, behind its backslash.
  | tag => rw [escaped_tag]; rfl

/-- Escaping makes no tags. -/
theorem Cuts.tag?_escaped {t : Text} {ps : List Piece} (h : Cuts t ps) (hnone : tag? t = none) :
    tag? (escaped ps) = none := by
  cases h with
  | nil => rfl
  | @char c t ps _ _ _ ht =>
    show tag? (c :: escaped ps) = none
    rw [tag?] at hnone ⊢
    split
    · next hstarts =>
      rw [if_pos hstarts, Option.map_eq_none_iff] at hnone
      rw [ht.upToClosing?_escaped hnone]
      rfl
    · rfl
  -- The backslash stands where the tag would have to start.
  | tag => rw [escaped_tag]; rfl

/-- One backslash stands before each tag. -/
def Piece.escaped : Piece → Piece
  | .tag _ body => .tag 1 body
  | .char c => .char c

theorem Cuts.piecesFrom_escaped {t : Text} {ps : List Piece} (h : Cuts t ps) :
    piecesFrom 0 (escaped ps) = ps.map Piece.escaped := by
  induction h with
  | nil =>
    show piecesFrom 0 [] = []
    rw [piecesFrom]
    rfl
  | @char c t ps hslash _ hopening ht ih =>
    show piecesFrom 0 (c :: escaped ps) = .char c :: _
    rw [piecesFrom, if_neg hslash, ih]
    by_cases hc : c = '['
    · rw [if_pos hc]
      split
      · next htag =>
        rw [ht.tag?_escaped (hopening hc)] at htag
        cases htag
      · rfl
    · rw [if_neg hc]
      rfl
  | @tag body t ps _ hbody ht ih =>
    -- The one backslash is counted for the tag behind it.
    rw [escaped_tag, piecesFrom, if_pos rfl, piecesFrom, if_neg (by decide), if_pos rfl]
    split
    · next htag =>
      rw [hbody.tag?_append] at htag
      cases htag
      rw [ih]
      rfl
    · next htag =>
      rw [hbody.tag?_append] at htag
      cases htag

theorem endsInOneSlash_of_getLast? {t : Text} (h : t.getLast? ≠ some '\\') :
    endsInOneSlash t = false := by
  rw [← List.head?_reverse] at h
  rw [endsInOneSlash]
  split
  · rfl
  · next heq =>
    rw [heq] at h
    exact absurd rfl h
  · rfl

theorem getLast?_cons_ne_slash {c : Char} {t : Text} (hc : c ≠ '\\')
    (ht : t.getLast? ≠ some '\\') : (c :: t).getLast? ≠ some '\\' := by
  rw [List.getLast?_cons]
  cases hlast : t.getLast? with
  | none => simpa using hc
  | some d =>
    rw [hlast] at ht
    simpa using ht

/-- What is escaped ends in no backslash that has to be doubled. -/
theorem Cuts.getLast?_escaped {t : Text} {ps : List Piece} (h : Cuts t ps) :
    (escaped ps).getLast? ≠ some '\\' := by
  induction h with
  | nil => exact fun h => nomatch h
  | char hslash _ _ _ ih => exact getLast?_cons_ne_slash hslash ih
  | @tag body t ps _ _ _ ih =>
    have hclosing := getLast?_cons_ne_slash (by decide : ']' ≠ '\\') ih
    rw [escaped_tag, ← List.cons_append, ← List.cons_append,
      List.getLast?_append_of_ne_nil _ (List.cons_ne_nil _ _)]
    exact hclosing

theorem escape_eq {t : Text} (h : Cuts t (pieces t)) : escape t = escaped (pieces t) := by
  have hends : endsInOneSlash ((pieces t).flatMap escapePiece) = false :=
    endsInOneSlash_of_getLast? h.getLast?_escaped
  rw [escape, hends]
  rfl

/-! ### What is printed -/

/-- The parts of what is escaped are plain and make up the text. -/
theorem Cuts.exists_parts {t : Text} {ps : List Piece} (h : Cuts t ps) (position : Nat) :
    ∃ ts : List Text, partsFrom position (ps.map Piece.escaped) = ts.map .plain ∧
      (∀ s ∈ ts, ':' ∉ s) ∧ ts.flatten = t := by
  induction h generalizing position with
  | nil => exact ⟨[], rfl, List.forall_mem_nil _, rfl⟩
  | @char c t ps hslash hcolon _ _ ih =>
    obtain ⟨ts, hparts, hplain, rfl⟩ := ih (position + 1)
    rw [List.map_cons, Piece.escaped, partsFrom, hparts]
    · cases ts with
      | nil => exact ⟨[[c]], rfl, by simpa using hcolon.symm, rfl⟩
      | cons s ts =>
        rw [List.forall_mem_cons] at hplain
        refine ⟨(c :: s) :: ts, rfl, List.forall_mem_cons.2 ⟨?_, hplain.2⟩, rfl⟩
        rw [List.mem_cons, not_or]
        exact ⟨hcolon.symm, hplain.1⟩
    · exact fun _ _ hc => absurd hc hslash
  | @tag body t ps hcolon _ _ ih =>
    obtain ⟨ts, hparts, hplain, rfl⟩ := ih (position + 1 + (tagText body).length)
    -- Half of one backslash is none, and a tag behind an odd one is plain text.
    refine ⟨[] :: tagText body :: ts, ?_, ?_, ?_⟩
    · rw [List.map_cons, Piece.escaped, partsFrom, hparts]
      rfl
    · refine List.forall_mem_cons.2 ⟨List.not_mem_nil, List.forall_mem_cons.2 ⟨?_, hplain⟩⟩
      simp [tagText, hcolon]
    · simp [tagText]

/-- A text without backslashes and colons prints as it is. -/
theorem render_escape {t : Text} (h : ∀ c ∈ t, c ≠ '\\' ∧ c ≠ ':') : render (escape t) = t := by
  have hcuts := cuts_pieces h
  obtain ⟨ts, hparts, hplain, hflatten⟩ := hcuts.exists_parts 0
  rw [render, parts, escape_eq hcuts, pieces, hcuts.piecesFrom_escaped, hparts, List.flatMap_map]
  have hprinted : ts.flatMap (fun s => (Part.plain s).printed) = ts.flatMap id :=
    List.flatMap_congr fun s hs => EmojiCode.replace_of_no_colon (hplain s hs)
  rw [hprinted, List.flatMap_id, hflatten]

end EscapeClause.Console.Markup
