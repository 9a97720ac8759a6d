import EscapeClause.Proofs.Cuts
import EscapeClause.Proofs.Trimming

/-!
# Fields with white space around them

A text is spaced out from a list of fields when these stand in it in order, with a comma between
each two and any white space before and after each (`Spaced`). Joining fields by a comma and a
space is one such text (`spaced_join`).

Fields can be told apart in it when they are trimmed, have no top-level comma and, up to the last
one, leave nothing open (`Separable`). Then they are the trimmed segments of the text, so a list is
lost at its empty ends only (`fields_of_spaced`). The fields of any text are such a list
(`separable_fields`).

The main statement is `fields_join_fields_iff`: joining and cutting are inverse exactly on the
lists whose two ends are not empty.
-/

namespace EscapeClause

/-! ### White space in a text that is cut -/

namespace Cursor

/-- White space opens and closes nothing. -/
theorem run_of_isBlank {b : Text} (hb : ∀ c ∈ b, Text.isBlank c = true) (k : Cursor) :
    k.run b = k := by
  rw [← run_filter_isMark, filter_isMark_of_class (by decide) hb, run_nil]

theorem uncut_of_isBlank {b : Text} (hb : ∀ c ∈ b, Text.isBlank c = true) (k : Cursor) :
    k.Uncut b := by
  refine uncut_of_not_mem (fun hcomma => ?_) k
  have hblank := hb _ hcomma
  exact absurd hblank (by decide)

section Padded

variable {a b : Text} (ha : ∀ c ∈ a, Text.isBlank c = true) (hb : ∀ c ∈ b, Text.isBlank c = true)

include ha hb

theorem run_padded (k : Cursor) (f : Text) : k.run (a ++ f ++ b) = k.run f := by
  rw [run_append, run_append, run_of_isBlank ha, run_of_isBlank hb]

theorem uncut_padded_iff {k : Cursor} {f : Text} : k.Uncut (a ++ f ++ b) ↔ k.Uncut f := by
  rw [uncut_append_iff, uncut_append_iff, run_of_isBlank ha]
  constructor
  · rintro ⟨⟨-, hf⟩, -⟩
    exact hf
  · intro hf
    exact ⟨⟨uncut_of_isBlank ha k, hf⟩, uncut_of_isBlank hb _⟩

end Padded

theorem run_strip (k : Cursor) (t : Text) : k.run (Text.strip t) = k.run t := by
  obtain ⟨a, b, ht, ha, hb⟩ := Text.exists_strip t
  calc k.run (Text.strip t) = k.run (a ++ Text.strip t ++ b) := (run_padded ha hb k _).symm
    _ = k.run t := by rw [← ht]

theorem Uncut.strip {k : Cursor} {t : Text} (h : k.Uncut t) : k.Uncut (Text.strip t) := by
  obtain ⟨a, b, ht, ha, hb⟩ := Text.exists_strip t
  rw [ht] at h
  exact (uncut_padded_iff ha hb).1 h

end Cursor

/-! ### Spaced out fields -/

/-- The fields stand in the text in order, with a comma between each two and white space around
each. -/
inductive Spaced : List Text → Text → Prop
  | blank {b : Text} (hb : ∀ c ∈ b, Text.isBlank c = true) : Spaced [] b
  | last {a f b : Text} (ha : ∀ c ∈ a, Text.isBlank c = true)
      (hb : ∀ c ∈ b, Text.isBlank c = true) : Spaced [f] (a ++ f ++ b)
  | cons {a f b next t : Text} {rest : List Text} (ha : ∀ c ∈ a, Text.isBlank c = true)
      (hb : ∀ c ∈ b, Text.isBlank c = true) (h : Spaced (next :: rest) t) :
    Spaced (f :: next :: rest) (a ++ f ++ b ++ ',' :: t)

/-- More white space at the start. -/
theorem Spaced.blank_append {fs : List Text} {t w : Text} (h : Spaced fs t)
    (hw : ∀ c ∈ w, Text.isBlank c = true) : Spaced fs (w ++ t) := by
  cases h with
  | blank hb => exact .blank (List.forall_mem_append.2 ⟨hw, hb⟩)
  | last ha hb =>
    rw [← List.append_assoc, ← List.append_assoc]
    exact .last (List.forall_mem_append.2 ⟨hw, ha⟩) hb
  | cons ha hb h =>
    rw [← List.append_assoc, ← List.append_assoc, ← List.append_assoc]
    exact .cons (List.forall_mem_append.2 ⟨hw, ha⟩) hb h

/-- Joined fields are spaced out: a space stands after each comma. -/
theorem spaced_join (fs : List Text) : Spaced fs (Text.join ", ".toList fs) := by
  have hnil : ∀ c ∈ ([] : Text), Text.isBlank c = true := List.forall_mem_nil _
  induction fs with
  | nil => exact .blank hnil
  | cons f rest ih =>
    cases rest with
    | nil =>
      have h : Spaced [f] ([] ++ f ++ []) := .last hnil hnil
      rw [Text.join_singleton]
      simpa using h
    | cons next rest =>
      have hspace : ∀ c ∈ [' '], Text.isBlank c = true := List.all_eq_true.1 rfl
      have h : Spaced (f :: next :: rest)
          ([] ++ f ++ [] ++ ',' :: ([' '] ++ Text.join ", ".toList (next :: rest))) :=
        .cons hnil hnil (ih.blank_append hspace)
      rw [Text.join_cons_cons]
      simpa using h

/-! ### Fields that can be told apart -/

/-- The fields are trimmed, no comma in them separates fields, and all but the last leave nothing
open. -/
structure Separable (fs : List Text) : Prop where
  trimmed : ∀ f ∈ fs, Text.strip f = f
  uncut : ∀ f ∈ fs, Cursor.start.Uncut f
  closed : ∀ f ∈ fs.dropLast, Cursor.start.run f = .start

/-- A text that is spaced out from separable fields is cut into them again. -/
theorem map_strip_segments_of_spaced {fs : List Text} {t : Text} (hspaced : Spaced fs t)
    (hne : fs ≠ []) (h : Separable fs) : (segments t).map Text.strip = fs := by
  induction hspaced with
  | blank hb => exact absurd rfl hne
  | @last a f b ha hb =>
    have huncut := (Cursor.uncut_padded_iff ha hb).2 (h.uncut f List.mem_cons_self)
    rw [segments, segmentsFrom_of_uncut huncut, List.map_singleton,
      Text.strip_append_append ha hb, h.trimmed f List.mem_cons_self]
  | @cons a f b next t rest ha hb hrest ih =>
    obtain ⟨htrimmed, huncut, hclosed⟩ := h
    rw [List.dropLast_cons_cons] at hclosed
    rw [List.forall_mem_cons] at htrimmed huncut hclosed
    -- The first segment is the padded field: the field holds no cut and closes what it opens.
    have hf := (Cursor.uncut_padded_iff ha hb).2 huncut.1
    have hrun : Cursor.start.run (a ++ f ++ b) = .start := by
      rw [Cursor.run_padded ha hb, hclosed.1]
    rw [segments, segmentsFrom_append_comma hf hrun, List.map_cons,
      Text.strip_append_append ha hb, htrimmed.1,
      ih (List.cons_ne_nil _ _) ⟨htrimmed.2, huncut.2, hclosed.2⟩]

/-- Only empty fields at the ends are lost. -/
theorem fields_of_spaced {fs : List Text} {t : Text} (hspaced : Spaced fs t) (h : Separable fs) :
    fields t = dropEmptyFirst (dropEmptyLast fs) := by
  by_cases hne : fs = []
  · subst hne
    cases hspaced with
    | blank hb =>
      rw [fields, segments, segmentsFrom_of_uncut (Cursor.uncut_of_isBlank hb _),
        List.map_singleton, Text.strip_of_blank hb]
      rfl
  · rw [fields, map_strip_segments_of_spaced hspaced hne h]

/-! ### The fields of a text -/

theorem mem_dropLast_of_dropEmptyLast {ts : List Text} {f : Text}
    (h : f ∈ (dropEmptyLast ts).dropLast) : f ∈ ts.dropLast := by
  rw [dropEmptyLast] at h
  split at h
  · exact List.dropLast_subset _ h
  · exact h

theorem mem_dropLast_of_dropEmptyFirst {ts : List Text} {f : Text}
    (h : f ∈ (dropEmptyFirst ts).dropLast) : f ∈ ts.dropLast := by
  rcases ts with _ | ⟨_ | ⟨c, s⟩, ts⟩
  · exact h
  · cases ts with
    | nil => cases h
    | cons next rest => exact List.mem_cons_of_mem _ h
  · exact h

/-- The fields of a text can be told apart. -/
theorem separable_fields (t : Text) : Separable (fields t) := by
  have hcut : IsCut t (segments t) := (cutFrom_segmentsFrom .start t).isCut
  refine ⟨?_, ?_, ?_⟩
  · intro f hf
    obtain ⟨s, -, rfl⟩ := exists_segment_of_mem_fields hf
    exact Text.strip_strip s
  · intro f hf
    obtain ⟨s, hs, rfl⟩ := exists_segment_of_mem_fields hf
    exact (hcut.uncut s hs).strip
  · intro f hf
    have hmem := mem_dropLast_of_dropEmptyLast (mem_dropLast_of_dropEmptyFirst hf)
    rw [← List.map_dropLast] at hmem
    obtain ⟨s, hs, rfl⟩ := List.mem_map.1 hmem
    rw [Cursor.run_strip, hcut.closed s hs]

/-! ### Joining and cutting -/

def EndsFilled (fs : List Text) : Prop := fs.head? ≠ some [] ∧ fs.getLast? ≠ some []

theorem endsFilled_of_forall_ne_nil {fs : List Text} (h : ∀ f ∈ fs, f ≠ []) : EndsFilled fs :=
  ⟨fun hhead => h [] (List.mem_of_mem_head? hhead) rfl,
    fun hlast => h [] (List.mem_of_getLast? hlast) rfl⟩

theorem dropEmptyLast_eq_self_iff {fs : List Text} :
    dropEmptyLast fs = fs ↔ fs.getLast? ≠ some [] := by
  constructor
  · intro h hlast
    obtain ⟨front, rfl⟩ := List.getLast?_eq_some_iff.1 hlast
    rw [dropEmptyLast, if_pos hlast, List.dropLast_concat] at h
    simp at h
  · intro hlast
    exact if_neg hlast

theorem dropEmptyFirst_eq_self_iff {fs : List Text} :
    dropEmptyFirst fs = fs ↔ fs.head? ≠ some [] := by
  rcases fs with _ | ⟨_ | ⟨c, s⟩, fs⟩ <;> simp [dropEmptyFirst]

/-- Nothing is lost at the ends exactly when both are filled. -/
theorem dropEmpty_eq_self_iff {fs : List Text} :
    dropEmptyFirst (dropEmptyLast fs) = fs ↔ EndsFilled fs := by
  constructor
  · intro h
    have hlast : dropEmptyLast fs = fs := by
      -- Both drops only shorten, so neither can have taken anything.
      refine (dropEmptyLast_sublist fs).eq_of_length_le ?_
      have hle := (dropEmptyFirst_sublist (dropEmptyLast fs)).length_le
      rwa [h] at hle
    rw [hlast] at h
    exact ⟨dropEmptyFirst_eq_self_iff.1 h, dropEmptyLast_eq_self_iff.1 hlast⟩
  · rintro ⟨hhead, hlast⟩
    rw [dropEmptyLast_eq_self_iff.2 hlast, dropEmptyFirst_eq_self_iff.2 hhead]

theorem fields_of_spaced_of_endsFilled {fs : List Text} {t : Text} (hspaced : Spaced fs t)
    (h : Separable fs) (hends : EndsFilled fs) : fields t = fs := by
  rw [fields_of_spaced hspaced h, dropEmpty_eq_self_iff.2 hends]

/-- Trimmed segments, none of them empty, are the fields of the text in which they are joined. -/
theorem fields_join {parts : List Text} (h : ∀ part ∈ parts, IsSegment part)
    (htrimmed : ∀ part ∈ parts, Text.strip part = part) (hne : ∀ part ∈ parts, part ≠ []) :
    fields (Text.join ", ".toList parts) = parts := by
  have hseparable : Separable parts :=
    ⟨htrimmed, fun part hpart => (h part hpart).uncut,
      fun part hpart => (h part (List.dropLast_subset _ hpart)).balanced.run_eq_start⟩
  exact fields_of_spaced_of_endsFilled (spaced_join parts) hseparable
    (endsFilled_of_forall_ne_nil hne)

/-- Joining and cutting are inverse exactly on the lists whose two ends are not empty. The fields of
a text are cut out of their joining again if and only if there are none or neither end is empty.
Any fields that can be told apart and have such ends are the fields of every text that is spaced
out from them. -/
theorem fields_join_fields_iff :
    (∀ t : Text, fields (Text.join ", ".toList (fields t)) = fields t ↔
      fields t = [] ∨ EndsFilled (fields t)) ∧
    ∀ (fs : List Text) (t : Text), Separable fs → EndsFilled fs → Spaced fs t →
      fields t = fs := by
  constructor
  · intro t
    rw [fields_of_spaced (spaced_join _) (separable_fields t), dropEmpty_eq_self_iff]
    constructor
    · exact .inr
    · rintro (hnil | hends)
      · rw [hnil]
        exact endsFilled_of_forall_ne_nil (List.forall_mem_nil _)
      · exact hends
  · intro fs t hseparable hends hspaced
    exact fields_of_spaced_of_endsFilled hspaced hseparable hends

/-- An empty field in the middle, a parenthesis that closes nothing, and a quote that is left open
at the end. -/
theorem fields_join_fields_iff_open_quote :
    Separable ["a)".toList, [], "'b,".toList] ∧ EndsFilled ["a)".toList, [], "'b,".toList] ∧
      Spaced ["a)".toList, [], "'b,".toList] " a)\n,,\t'b, ".toList ∧
      fields " a)\n,,\t'b, ".toList = ["a)".toList, [], "'b,".toList] := by
  have hseparable : Separable ["a)".toList, [], "'b,".toList] :=
    separable_fields "a),,'b,".toList
  have hends : EndsFilled ["a)".toList, [], "'b,".toList] := by
    constructor <;> decide
  have blank : ∀ {w : Text}, w.all Text.isBlank = true → ∀ c ∈ w, Text.isBlank c = true :=
    fun h => List.all_eq_true.1 h
  have hspaced : Spaced ["a)".toList, [], "'b,".toList] " a)\n,,\t'b, ".toList :=
    .cons (a := [' ']) (b := ['\n']) (blank rfl) (blank rfl)
      (.cons (a := []) (b := []) (blank rfl) (blank rfl)
        (.last (a := ['\t']) (b := [' ']) (blank rfl) (blank rfl)))
  exact ⟨hseparable, hends, hspaced,
    fields_join_fields_iff.2 _ _ hseparable hends hspaced⟩

end EscapeClause
