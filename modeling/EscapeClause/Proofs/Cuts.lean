import Mathlib.Logic.ExistsUnique
import EscapeClause.Proofs.Fields

/-!
# The one cut of a text

A text can be cut at its top-level commas in one way only: into stretches that have no such comma,
each but the last one closed where it ends, when every stretch is read from the start
(`existsUnique_cut`). The fields of the text are the trimmed stretches of that cut, where an empty
last one and then an empty first one are left out, and nothing else (`EndsDropped`).

The reader of `segmentsFrom` goes through the whole text with one cursor. `CutFrom` is the cut as
that reader meets it, its first stretch read from any place; `IsCut` says the same without a
reader.
-/

namespace EscapeClause

/-- The text is cut into these segments at its top-level commas, and nothing is lost. -/
structure IsCut (t : Text) (segs : List Text) : Prop where
  join_eq : Text.join [','] segs = t
  uncut : ∀ s ∈ segs, Cursor.start.Uncut s
  closed : ∀ s ∈ segs.dropLast, Cursor.start.run s = .start

/-- The text is cut into these segments by a reader that is at place `k`. -/
inductive CutFrom : Cursor → Text → List Text → Prop
  | last {k : Cursor} {t : Text} (h : k.Uncut t) : CutFrom k t [t]
  | cut {k : Cursor} {s r : Text} {segs : List Text} (hs : k.Uncut s) (hrun : k.run s = .start)
      (h : CutFrom .start r segs) : CutFrom k (s ++ ',' :: r) (s :: segs)

namespace CutFrom

theorem ne_nil {k : Cursor} {t : Text} {segs : List Text} (h : CutFrom k t segs) : segs ≠ [] := by
  cases h with
  | last h => exact List.cons_ne_nil _ _
  | cut hs hrun h => exact List.cons_ne_nil _ _

theorem isCut {t : Text} {segs : List Text} (h : CutFrom .start t segs) : IsCut t segs := by
  -- The place is a variable for the induction and the start of the text for each segment.
  generalize hk : Cursor.start = k at h
  induction h with
  | last h =>
    subst hk
    refine ⟨Text.join_singleton _ _, ?_, ?_⟩
    · intro s hs
      rw [List.mem_singleton] at hs
      subst hs
      exact h
    · intro s hs
      cases hs
  | @cut k s r segs hs hrun h ih =>
    subst hk
    have hsegs := ih rfl
    obtain ⟨next, rest, rfl⟩ := List.exists_cons_of_ne_nil h.ne_nil
    refine ⟨?_, ?_, ?_⟩
    · rw [Text.join_cons_cons, hsegs.join_eq, List.append_assoc]
      rfl
    · exact List.forall_mem_cons.2 ⟨hs, hsegs.uncut⟩
    · -- A segment before a comma leaves the cursor at its start.
      rw [List.dropLast_cons_cons]
      exact List.forall_mem_cons.2 ⟨hrun, hsegs.closed⟩

end CutFrom

theorem IsCut.cutFrom {t : Text} {segs : List Text} (h : IsCut t segs) (hne : segs ≠ []) :
    CutFrom .start t segs := by
  induction segs generalizing t with
  | nil => exact absurd rfl hne
  | cons s segs ih =>
    obtain ⟨rfl, huncut, hclosed⟩ := h
    rw [List.forall_mem_cons] at huncut
    cases segs with
    | nil =>
      rw [Text.join_singleton]
      exact .last huncut.1
    | cons next rest =>
      -- The first segment is closed since another one follows.
      rw [List.dropLast_cons_cons, List.forall_mem_cons] at hclosed
      rw [Text.join_cons_cons, List.append_assoc]
      exact .cut huncut.1 hclosed.1
        (ih ⟨rfl, huncut.2, hclosed.2⟩ (List.cons_ne_nil _ _))

/-- The reader cuts the text. -/
theorem cutFrom_segmentsFrom (k : Cursor) (t : Text) : CutFrom k t (segmentsFrom k t) := by
  induction t generalizing k with
  | nil => exact .last (Cursor.uncut_nil k)
  | cons c t ih =>
    rw [segmentsFrom]
    split
    · next hcuts =>
      obtain ⟨rfl, rfl⟩ := Cursor.cuts_iff.1 hcuts
      exact .cut (Cursor.uncut_nil _) rfl (ih .start)
    · next hcuts =>
      -- The code point goes to the first segment, whichever the reader found.
      have hrest := ih (k.step c)
      generalize segmentsFrom (k.step c) t = segs at hrest ⊢
      cases hrest with
      | last h => exact .last (Cursor.uncut_cons_iff.2 ⟨hcuts, h⟩)
      | cut hs hrun h => exact .cut (Cursor.uncut_cons_iff.2 ⟨hcuts, hs⟩) hrun h

/-- There is no other cut. -/
theorem CutFrom.eq_segmentsFrom {k : Cursor} {t : Text} {segs : List Text}
    (h : CutFrom k t segs) : segs = segmentsFrom k t := by
  induction h with
  | last h => exact (segmentsFrom_of_uncut h).symm
  | cut hs hrun h ih =>
    rw [segmentsFrom_append_comma hs hrun, ih]
    rfl

/-! ### The two ends -/

/-- `ts` are the texts without the last one, if that is empty. -/
def LastDropped (ss ts : List Text) : Prop :=
  ss = ts ++ [[]] ∨ ss.getLast? ≠ some [] ∧ ts = ss

/-- `ts` are the texts without the first one, if that is empty. -/
def FirstDropped (ss ts : List Text) : Prop :=
  ss = [] :: ts ∨ ss.head? ≠ some [] ∧ ts = ss

/-- `fs` are the texts without the last one, if that is empty, and then without the first one, if
there is one left and it is empty. -/
def EndsDropped (ss fs : List Text) : Prop := ∃ ts, LastDropped ss ts ∧ FirstDropped ts fs

theorem lastDropped_iff {ss ts : List Text} : LastDropped ss ts ↔ ts = dropEmptyLast ss := by
  unfold LastDropped dropEmptyLast
  constructor
  · rintro (rfl | ⟨hlast, rfl⟩)
    · rw [if_pos List.getLast?_concat, List.dropLast_concat]
    · rw [if_neg hlast]
  · rintro rfl
    split
    · next hlast =>
      obtain ⟨front, rfl⟩ := List.getLast?_eq_some_iff.1 hlast
      rw [List.dropLast_concat]
      exact .inl rfl
    · next hlast => exact .inr ⟨hlast, rfl⟩

theorem firstDropped_iff {ss ts : List Text} : FirstDropped ss ts ↔ ts = dropEmptyFirst ss := by
  unfold FirstDropped
  rcases ss with _ | ⟨_ | ⟨c, s⟩, ss⟩
  · simp [dropEmptyFirst]
  · simp [dropEmptyFirst, eq_comm]
  · simp [dropEmptyFirst]

theorem endsDropped_iff {ss fs : List Text} :
    EndsDropped ss fs ↔ fs = dropEmptyFirst (dropEmptyLast ss) := by
  unfold EndsDropped
  simp only [lastDropped_iff, firstDropped_iff, exists_eq_left]

/-! ### The cut -/

/-- A text has exactly one cut into segments, apart from the empty text, which is also the joining
of no segments at all. The fields are the trimmed segments of a cut without the empty ends. -/
theorem existsUnique_cut (t : Text) :
    (∃! segs, segs ≠ [] ∧ IsCut t segs) ∧ (IsCut t [] ↔ t = []) ∧
      ∀ segs, IsCut t segs → ∀ fs, EndsDropped (segs.map Text.strip) fs ↔ fs = fields t := by
  -- A cut is what the reader makes of the text, and the reader makes one.
  have hunique : ∀ segs, segs ≠ [] → IsCut t segs → segs = segments t := by
    intro segs hne hcut
    exact (hcut.cutFrom hne).eq_segmentsFrom
  have hnil : IsCut t [] ↔ t = [] := by
    constructor
    · intro h
      exact h.join_eq.symm
    · rintro rfl
      exact ⟨rfl, List.forall_mem_nil _, List.forall_mem_nil _⟩
  refine ⟨⟨segments t, ⟨segmentsFrom_ne_nil _ _, (cutFrom_segmentsFrom _ _).isCut⟩, ?_⟩, hnil, ?_⟩
  · rintro segs ⟨hne, hcut⟩
    exact hunique segs hne hcut
  · intro segs hcut fs
    rw [endsDropped_iff]
    cases segs with
    | nil =>
      rw [hnil.1 hcut]
      rfl
    | cons s segs =>
      rw [hunique (s :: segs) (List.cons_ne_nil _ _) hcut]
      rfl

/-- A group keeps its comma, and the empty fields at the ends are left out. -/
theorem existsUnique_cut_group :
    IsCut ",f(a,b), ,".toList [[], "f(a,b)".toList, [' '], []] ∧
      fields ",f(a,b), ,".toList = ["f(a,b)".toList, []] := by
  have hcut : IsCut ",f(a,b), ,".toList [[], "f(a,b)".toList, [' '], []] :=
    (cutFrom_segmentsFrom .start ",f(a,b), ,".toList).isCut
  have hends : EndsDropped ([[], "f(a,b)".toList, [' '], []].map Text.strip)
      ["f(a,b)".toList, []] :=
    ⟨[[], "f(a,b)".toList, []], .inl rfl, .inl rfl⟩
  exact ⟨hcut, (((existsUnique_cut ",f(a,b), ,".toList).2.2 _ hcut _).1 hends).symm⟩

end EscapeClause
