import EscapeClause.Proofs.Balance

/-!
# Texts between commas

A comma separates fields where a cursor stands at the start of a text again, so a text without
such a comma (`Cursor.Uncut`) is one segment (`segmentsFrom_of_uncut`), and a comma after a text
that leaves nothing open begins another one (`segmentsFrom_append_comma`). Texts that are balanced
and uncut can stand between commas anywhere (`IsSegment`).
-/

namespace EscapeClause

namespace Cursor

/-- No comma of the text separates fields for a cursor at this place. -/
def Uncut (k : Cursor) (t : Text) : Prop := ∀ s r, t = s ++ ',' :: r → k.run s ≠ start

theorem cuts_iff {k : Cursor} {c : Char} : k.cuts c = true ↔ k = start ∧ c = ',' := by
  obtain ⟨quote, depth⟩ := k
  cases quote <;> simp [cuts, start]

theorem uncut_nil (k : Cursor) : k.Uncut [] := by
  intro s r h
  simp at h

theorem uncut_cons_iff {k : Cursor} {c : Char} {t : Text} :
    k.Uncut (c :: t) ↔ ¬ k.cuts c = true ∧ (k.step c).Uncut t := by
  rw [cuts_iff]
  constructor
  · intro h
    refine ⟨?_, ?_⟩
    · rintro ⟨hk, rfl⟩
      exact h [] t rfl hk
    · rintro s r rfl
      exact h (c :: s) r rfl
  · rintro ⟨hc, ht⟩ s r heq
    -- The comma is the first code point, or it stands further on.
    cases s with
    | nil =>
      obtain ⟨rfl, -⟩ := List.cons.inj heq
      exact fun hk => hc ⟨hk, rfl⟩
    | cons d s =>
      obtain ⟨rfl, rfl⟩ := List.cons.inj heq
      exact ht s r rfl

theorem uncut_append_iff {k : Cursor} {s t : Text} :
    k.Uncut (s ++ t) ↔ k.Uncut s ∧ (k.run s).Uncut t := by
  induction s generalizing k with
  | nil => exact (and_iff_right (uncut_nil k)).symm
  | cons c s ih => rw [List.cons_append, uncut_cons_iff, uncut_cons_iff, ih, run_cons, and_assoc]

theorem uncut_of_not_mem {t : Text} (h : ',' ∉ t) (k : Cursor) : k.Uncut t := by
  rintro s r rfl
  simp at h

/-- The beginning of a text closes nothing twice if the text does not. -/
theorem surplus?_of_append {k : Cursor} {s t : Text} (h : k.surplus? (s ++ t) = none) :
    k.surplus? s = none := by
  induction s generalizing k with
  | nil => rfl
  | cons c s ih =>
    obtain ⟨hc, hs⟩ := surplus?_cons_eq_none_iff.1 h
    exact surplus?_cons_eq_none_iff.2 ⟨hc, ih hs⟩

/-- One parenthesis deeper no comma separates fields. -/
theorem uncut_deeper {k : Cursor} {t : Text} (h : k.surplus? t = none) : k.deeper.Uncut t := by
  rintro s r rfl
  rw [run_deeper (surplus?_of_append h)]
  exact deeper_ne_start _

end Cursor

/-! ### Balanced texts -/

theorem balanced_nil : Balanced [] := ⟨rfl, rfl⟩

theorem Balanced.append {s t : Text} (hs : Balanced s) (ht : Balanced t) : Balanced (s ++ t) where
  surplus?_eq_none := by rw [hs.surplus?_append, ht.surplus?_eq_none]
  run_eq_start := by rw [Cursor.run_append, hs.run_eq_start, ht.run_eq_start]

/-- A text without quotes and parentheses is balanced. -/
theorem balanced_of_class {p : Char → Bool} (hp : marks.all (!p ·) = true) {t : Text}
    (ht : ∀ c ∈ t, p c = true) : Balanced t := by
  rw [← balanced_filter_isMark_iff, filter_isMark_of_class hp ht]
  exact balanced_nil

theorem Balanced.join {separator : Text} (hseparator : Balanced separator) {parts : List Text}
    (h : ∀ part ∈ parts, Balanced part) : Balanced (Text.join separator parts) :=
  Text.join_induction balanced_nil Balanced.append hseparator h

/-- A text that can stand between commas: it is balanced, and no comma of it separates fields. -/
structure IsSegment (t : Text) : Prop where
  balanced : Balanced t
  uncut : Cursor.start.Uncut t

namespace IsSegment

theorem append {s t : Text} (hs : IsSegment s) (ht : IsSegment t) : IsSegment (s ++ t) where
  balanced := hs.balanced.append ht.balanced
  uncut := Cursor.uncut_append_iff.2 ⟨hs.uncut, by rw [hs.balanced.run_eq_start]; exact ht.uncut⟩

theorem join {separator : Text} (hseparator : IsSegment separator) {parts : List Text}
    (h : ∀ part ∈ parts, IsSegment part) : IsSegment (Text.join separator parts) :=
  Text.join_induction ⟨balanced_nil, Cursor.uncut_nil _⟩ append hseparator h

/-- A text without quotes, parentheses and commas can stand between commas. -/
theorem of_class {p : Char → Bool} (hp : (',' :: marks).all (!p ·) = true) {t : Text}
    (ht : ∀ c ∈ t, p c = true) : IsSegment t := by
  rw [List.all_cons, Bool.and_eq_true] at hp
  refine ⟨balanced_of_class hp.2 ht, Cursor.uncut_of_not_mem (fun hmem => ?_) _⟩
  rw [ht _ hmem] at hp
  exact absurd hp.1 (by decide)

/-- The commas inside a group separate no fields outside it. -/
theorem group {t : Text} (ht : Balanced t) : IsSegment ('(' :: t ++ [')']) where
  balanced := (balanced_group_append_iff ht []).2 balanced_nil
  uncut := by
    have hopen : Cursor.start.step '(' = Cursor.start.deeper := rfl
    rw [List.cons_append, Cursor.uncut_cons_iff, hopen, Cursor.uncut_append_iff]
    exact ⟨by decide, Cursor.uncut_deeper ht.surplus?_eq_none,
      Cursor.uncut_of_not_mem (by decide) _⟩

end IsSegment

/-! ### Cutting -/

theorem segmentsFrom_of_uncut {k : Cursor} {t : Text} (h : k.Uncut t) : segmentsFrom k t = [t] := by
  induction t generalizing k with
  | nil => rfl
  | cons c t ih =>
    obtain ⟨hc, ht⟩ := Cursor.uncut_cons_iff.1 h
    rw [segmentsFrom, if_neg hc, ih ht, List.modifyHead_cons]

/-- A comma after a text that leaves nothing open separates it from what follows. -/
theorem segmentsFrom_append_comma {k : Cursor} {s : Text} (h : k.Uncut s)
    (hrun : k.run s = .start) (t : Text) :
    segmentsFrom k (s ++ ',' :: t) = s :: segments t := by
  induction s generalizing k with
  | nil =>
    have hcuts : k.cuts ',' = true := Cursor.cuts_iff.2 ⟨hrun, rfl⟩
    rw [List.nil_append, segmentsFrom, if_pos hcuts, segments]
  | cons c s ih =>
    obtain ⟨hc, hs⟩ := Cursor.uncut_cons_iff.1 h
    rw [List.cons_append, segmentsFrom, if_neg hc, ih hs hrun, List.modifyHead_cons]

end EscapeClause
