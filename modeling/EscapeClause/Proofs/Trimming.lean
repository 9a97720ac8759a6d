import Mathlib.Data.List.TakeWhile
import EscapeClause.Text.Basic

/-!
# Trimmed texts

Trimming takes white space away from the two ends of a text and nothing else (`exists_strip`). So
white space around a text does not matter to it (`strip_append_append`), and a text stays as it is
exactly when neither its first nor its last code point is white space (`strip_eq_self_iff`).
-/

namespace EscapeClause.Text

theorem stripStart_append {a : Text} (ha : ∀ c ∈ a, isBlank c = true) (t : Text) :
    stripStart (a ++ t) = stripStart t :=
  List.dropWhile_append_of_pos ha

theorem stripEnd_append {b : Text} (hb : ∀ c ∈ b, isBlank c = true) (t : Text) :
    stripEnd (t ++ b) = stripEnd t := by
  have hb' : ∀ c ∈ b.reverse, isBlank c = true := fun c hc => hb c (List.mem_reverse.1 hc)
  rw [stripEnd, List.reverse_append, List.dropWhile_append_of_pos hb', stripEnd]

/-- A text of white space is trimmed to nothing. -/
theorem strip_of_blank {b : Text} (hb : ∀ c ∈ b, isBlank c = true) : strip b = [] := by
  have hstart := stripStart_append hb []
  rw [List.append_nil] at hstart
  rw [strip, hstart]
  rfl

/-- White space around a text does not matter. -/
theorem strip_append_append {a b : Text} (ha : ∀ c ∈ a, isBlank c = true)
    (hb : ∀ c ∈ b, isBlank c = true) (t : Text) : strip (a ++ t ++ b) = strip t := by
  rw [List.append_assoc, strip, stripStart_append ha, stripStart, List.dropWhile_append]
  split
  -- There is nothing but white space.
  · next hempty =>
    have hnil : stripStart t = [] := List.isEmpty_iff.1 hempty
    have hblank : strip b = [] := strip_of_blank hb
    rw [strip, hnil]
    exact hblank
  · exact stripEnd_append hb _

theorem strip_cons {c : Char} (hc : isBlank c = true) (t : Text) : strip (c :: t) = strip t := by
  have h := strip_append_append (a := [c]) (b := []) (by simpa using hc) (by simp) t
  simpa using h

/-- Trimming takes white space away and nothing else. -/
theorem exists_strip (t : Text) :
    ∃ a b, t = a ++ strip t ++ b ∧ (∀ c ∈ a, isBlank c = true) ∧ ∀ c ∈ b, isBlank c = true := by
  refine ⟨t.takeWhile isBlank, ((stripStart t).reverse.takeWhile isBlank).reverse, ?_,
    fun c hc => List.mem_takeWhile_imp hc,
    fun c hc => List.mem_takeWhile_imp (List.mem_reverse.1 hc)⟩
  have hend : strip t ++ ((stripStart t).reverse.takeWhile isBlank).reverse = stripStart t := by
    rw [strip, stripEnd, ← List.reverse_append, List.takeWhile_append_dropWhile,
      List.reverse_reverse]
  rw [List.append_assoc, hend, stripStart, List.takeWhile_append_dropWhile]

/-! ### Ends that are no white space -/

theorem isBlank_of_mem_head?_stripStart {t : Text} :
    ∀ c ∈ (stripStart t).head?, isBlank c = false := by
  intro c hc
  have hhead := t.head?_dropWhile_not isBlank
  rw [stripStart] at hc
  rw [Option.mem_def.1 hc] at hhead
  simpa using hhead

theorem isBlank_of_mem_getLast?_strip {t : Text} :
    ∀ c ∈ (strip t).getLast?, isBlank c = false := by
  intro c hc
  rw [strip, stripEnd, List.getLast?_reverse] at hc
  exact isBlank_of_mem_head?_stripStart c hc

theorem isBlank_of_mem_head?_strip {t : Text} : ∀ c ∈ (strip t).head?, isBlank c = false := by
  intro c hc
  obtain ⟨r, hr⟩ := List.head?_eq_some_iff.1 hc
  have hprefix : strip t <+: stripStart t := by
    rw [← List.reverse_suffix, strip, stripEnd, List.reverse_reverse]
    exact List.dropWhile_suffix _
  obtain ⟨more, hmore⟩ := hprefix
  refine isBlank_of_mem_head?_stripStart (t := t) c ?_
  rw [← hmore, hr]
  rfl

/-- A text that white space neither starts nor ends is trimmed. -/
theorem strip_eq_self_iff {t : Text} :
    strip t = t ↔
      (∀ c ∈ t.head?, isBlank c = false) ∧ ∀ c ∈ t.getLast?, isBlank c = false := by
  constructor
  · intro h
    have hhead := isBlank_of_mem_head?_strip (t := t)
    have hlast := isBlank_of_mem_getLast?_strip (t := t)
    rw [h] at hhead hlast
    exact ⟨hhead, hlast⟩
  · rintro ⟨hhead, hlast⟩
    obtain ⟨a, b, ht, ha, hb⟩ := exists_strip t
    -- What was taken away would stand at an end of the text.
    have hanil : a = [] := by
      cases a with
      | nil => rfl
      | cons c a =>
        have hc := hhead c (by rw [ht]; rfl)
        rw [ha c List.mem_cons_self] at hc
        cases hc
    have hbnil : b = [] := by
      cases hb' : b.getLast? with
      | none => exact List.getLast?_eq_none_iff.1 hb'
      | some c =>
        have hc := hlast c (by rw [ht, List.getLast?_append, hb']; rfl)
        rw [hb c (List.mem_of_getLast? hb')] at hc
        cases hc
    rw [hanil, hbnil, List.nil_append, List.append_nil] at ht
    exact ht.symm

theorem strip_strip (t : Text) : strip (strip t) = strip t :=
  strip_eq_self_iff.2 ⟨isBlank_of_mem_head?_strip, isBlank_of_mem_getLast?_strip⟩

/-- What stands between two trimmed texts does not matter to the ends. -/
theorem strip_append_of_ne_nil {s t : Text} (hs : s ≠ []) (ht : t ≠ []) (hss : strip s = s)
    (htt : strip t = t) (middle : Text) : strip (s ++ middle ++ t) = s ++ middle ++ t := by
  rw [strip_eq_self_iff] at hss htt ⊢
  obtain ⟨c, hc⟩ := Option.isSome_iff_exists.1 (List.isSome_head?.2 hs)
  obtain ⟨d, hd⟩ := Option.isSome_iff_exists.1 (List.getLast?_isSome.2 ht)
  refine ⟨?_, ?_⟩
  · rw [List.append_assoc, List.head?_append, hc, Option.some_or, ← hc]
    exact hss.1
  · rw [List.getLast?_append, hd, Option.some_or, ← hd]
    exact htt.2

theorem join_ne_nil {part : Text} (h : part ≠ []) (separator : Text) (rest : List Text) :
    join separator (part :: rest) ≠ [] := by
  cases rest with
  | nil =>
    rw [join_singleton]
    exact h
  | cons next rest =>
    rw [join_cons_cons]
    simp [h]

theorem strip_join {separator : Text} {parts : List Text} (hne : ∀ part ∈ parts, part ≠ [])
    (h : ∀ part ∈ parts, strip part = part) :
    strip (join separator parts) = join separator parts := by
  induction parts with
  | nil => rfl
  | cons part rest ih =>
    rw [List.forall_mem_cons] at hne h
    cases rest with
    | nil =>
      rw [join_singleton]
      exact h.1
    | cons next rest =>
      have hrest := join_ne_nil (hne.2 next List.mem_cons_self) separator rest
      rw [join_cons_cons]
      exact strip_append_of_ne_nil hne.1 hrest h.1 (ih hne.2 h.2) separator

end EscapeClause.Text
