import EscapeClause.Field

/-!
# Balanced texts

A text is balanced when all its quoted regions are closed, every closing parenthesis outside them
closes one that is open, and none is left open at the end. `Cursor.surplus?` reads up to the first
parenthesis that closes nothing. Where a cursor stops at depth 0 a deeper one does not, so a group
is balanced exactly when what follows the parenthesis that closes it is
(`balanced_group_append_iff`).

Quotes and parentheses decide alone whether a text is balanced (`balanced_congr`): a change that
leaves them in place, such as trimming fields or writing operators between them, does not matter.
-/

namespace EscapeClause

namespace Cursor

/-- What follows the first parenthesis that closes nothing; `none` if there is no such one. -/
def surplus? (k : Cursor) : Text → Option Text
  | [] => none
  | c :: r => if k = start ∧ c = ')' then some r else (k.step c).surplus? r

/-- The same place with one more parenthesis open around it. -/
def deeper (k : Cursor) : Cursor := { k with depth := k.depth + 1 }

@[simp] theorem surplus?_nil (k : Cursor) : k.surplus? [] = none := rfl

theorem surplus?_close (r : Text) : start.surplus? (')' :: r) = some r := rfl

theorem surplus?_cons_eq_none_iff {k : Cursor} {c : Char} {r : Text} :
    k.surplus? (c :: r) = none ↔ ¬ (k = start ∧ c = ')') ∧ (k.step c).surplus? r = none := by
  rw [surplus?]
  split <;> simp_all

theorem surplus?_append_of_eq_none {k : Cursor} {s : Text} (h : k.surplus? s = none) (t : Text) :
    k.surplus? (s ++ t) = (k.run s).surplus? t := by
  induction s generalizing k with
  | nil => rfl
  | cons c s ih =>
    obtain ⟨hc, hs⟩ := surplus?_cons_eq_none_iff.1 h
    rw [List.cons_append, surplus?, if_neg hc, ih hs, run_cons]

/-- The text up to the first parenthesis that closes nothing leaves nothing open. -/
theorem exists_of_surplus? {k : Cursor} {t r : Text} (h : k.surplus? t = some r) :
    ∃ s, t = s ++ ')' :: r ∧ k.surplus? s = none ∧ k.run s = start := by
  induction t generalizing k with
  | nil => cases h
  | cons c t ih =>
    rw [surplus?] at h
    split at h
    · next hc =>
      -- The cursor is at its start, where a closing parenthesis closes nothing.
      obtain ⟨rfl, rfl⟩ := hc
      cases h
      exact ⟨[], rfl, rfl, rfl⟩
    · next hc =>
      obtain ⟨s, rfl, hs, hr⟩ := ih h
      exact ⟨c :: s, rfl, surplus?_cons_eq_none_iff.2 ⟨hc, hs⟩, hr⟩

/-! ### One parenthesis deeper -/

theorem deeper_ne_start (k : Cursor) : k.deeper ≠ start := by
  intro h
  have := congrArg depth h
  simp [deeper, start] at this

/-- One parenthesis deeper a code point does the same, unless it is one that closes nothing. -/
theorem step_deeper {k : Cursor} {c : Char} (h : ¬ (k = start ∧ c = ')')) :
    k.deeper.step c = (k.step c).deeper := by
  obtain ⟨quote, depth⟩ := k
  cases quote with
  | some q => simp only [deeper, step]; split <;> rfl
  | none =>
    simp only [deeper, step]
    split
    · rfl
    · split
      · rfl
      · split
        -- A closing parenthesis closes one that is open, so the depth is no matter of clamping.
        · next hc =>
          have : depth ≠ 0 := fun h0 => h ⟨by rw [h0]; rfl, hc⟩
          simp only [mk.injEq, true_and]
          omega
        · rfl

theorem run_deeper {k : Cursor} {t : Text} (h : k.surplus? t = none) :
    k.deeper.run t = (k.run t).deeper := by
  induction t generalizing k with
  | nil => rfl
  | cons c t ih =>
    obtain ⟨hc, ht⟩ := surplus?_cons_eq_none_iff.1 h
    rw [run_cons, run_cons, step_deeper hc, ih ht]

theorem surplus?_deeper {k : Cursor} {t : Text} (h : k.surplus? t = none) :
    k.deeper.surplus? t = none := by
  induction t generalizing k with
  | nil => rfl
  | cons c t ih =>
    obtain ⟨hc, ht⟩ := surplus?_cons_eq_none_iff.1 h
    refine surplus?_cons_eq_none_iff.2 ⟨fun hk => deeper_ne_start k hk.1, ?_⟩
    rw [step_deeper hc]
    exact ih ht

/-- A closing parenthesis leads to the start only from one parenthesis deeper. -/
theorem eq_start_of_step_close {k : Cursor} (h : k.deeper.step ')' = start) : k = start := by
  obtain ⟨quote, depth⟩ := k
  cases quote with
  | some q => cases q <;> simp [deeper, step, start, Quote.closer] at h
  | none => simpa [deeper, step, start, Quote.ofOpener?] using h

end Cursor

/-! ### Balanced texts -/

/-- All quoted regions are closed, and the parentheses outside them match. -/
structure Balanced (t : Text) : Prop where
  /-- No parenthesis closes nothing. -/
  surplus?_eq_none : Cursor.start.surplus? t = none
  /-- No quote and no parenthesis is left open. -/
  run_eq_start : Cursor.start.run t = .start

instance (t : Text) : Decidable (Balanced t) :=
  decidable_of_iff (Cursor.start.surplus? t = none ∧ Cursor.start.run t = .start)
    ⟨fun h => ⟨h.1, h.2⟩, fun h => ⟨h.1, h.2⟩⟩

/-- A text before which a balanced one stands is read as if it stood alone. -/
theorem Balanced.surplus?_append {s : Text} (hs : Balanced s) (t : Text) :
    Cursor.start.surplus? (s ++ t) = Cursor.start.surplus? t := by
  rw [Cursor.surplus?_append_of_eq_none hs.surplus?_eq_none, hs.run_eq_start]

/-- A group with a balanced inside does not matter to what follows it. -/
theorem balanced_group_append_iff {s : Text} (hs : Balanced s) (r : Text) :
    Balanced ('(' :: (s ++ ')' :: r)) ↔ Balanced r := by
  have hopen : Cursor.start.step '(' = Cursor.start.deeper := rfl
  have hclose : Cursor.start.deeper.step ')' = Cursor.start := rfl
  -- The group is read one level deeper and leads back to where it began.
  have hrun : Cursor.start.run ('(' :: (s ++ ')' :: r)) = Cursor.start.run r := by
    rw [Cursor.run_cons, hopen, Cursor.run_append, Cursor.run_deeper hs.surplus?_eq_none,
      hs.run_eq_start, Cursor.run_cons, hclose]
  have hsurplus : Cursor.start.surplus? ('(' :: (s ++ ')' :: r)) = Cursor.start.surplus? r := by
    rw [Cursor.surplus?, if_neg (by decide), hopen,
      Cursor.surplus?_append_of_eq_none (Cursor.surplus?_deeper hs.surplus?_eq_none),
      Cursor.run_deeper hs.surplus?_eq_none, hs.run_eq_start, Cursor.surplus?,
      if_neg (by decide), hclose]
  constructor
  · rintro ⟨h, h'⟩
    exact ⟨by rw [← hsurplus, h], by rw [← hrun, h']⟩
  · rintro ⟨h, h'⟩
    exact ⟨by rw [hsurplus, h], by rw [hrun, h']⟩

/-- If nothing is closed twice inside a balanced group, its inside is balanced. -/
theorem balanced_of_balanced_group {s : Text} (h : Balanced ('(' :: s ++ [')']))
    (hs : Cursor.start.surplus? s = none) : Balanced s := by
  refine ⟨hs, Cursor.eq_start_of_step_close ?_⟩
  have hrun := h.run_eq_start
  rwa [List.cons_append, Cursor.run_cons, Cursor.run_append,
    show Cursor.start.step '(' = Cursor.start.deeper from rfl, Cursor.run_deeper hs] at hrun

/-! ### The code points that matter -/

def marks : List Char := ['\'', '"', '[', ']', '(', ')']

def isMark (c : Char) : Bool := marks.contains c

/-- A class without marks is one of unmarked code points. -/
theorem isMark_eq_false_of_class {p : Char → Bool} (hp : marks.all (!p ·) = true) {c : Char}
    (hc : p c = true) : isMark c = false := by
  rw [isMark, List.contains_eq_mem, decide_eq_false_iff_not]
  intro hm
  have hout := List.all_eq_true.1 hp c hm
  rw [hc] at hout
  cases hout

theorem filter_isMark_of_class {p : Char → Bool} (hp : marks.all (!p ·) = true) {t : Text}
    (ht : ∀ c ∈ t, p c = true) : t.filter isMark = [] := by
  refine List.filter_eq_nil_iff.2 fun c hc => ?_
  rw [isMark_eq_false_of_class hp (ht c hc)]
  exact Bool.false_ne_true

namespace Cursor

theorem step_of_isMark_eq_false {c : Char} (hc : isMark c = false) (k : Cursor) : k.step c = k := by
  have ne : ∀ m ∈ marks, c ≠ m := by
    rintro m hm rfl
    simp [isMark, hm] at hc
  obtain ⟨quote, depth⟩ := k
  cases quote with
  | none =>
    rw [step, Quote.ofOpener?, if_neg (ne _ (by decide)), if_neg (ne _ (by decide)),
      if_neg (ne _ (by decide)), if_neg (ne _ (by decide)), if_neg (ne _ (by decide))]
  | some q =>
    -- A closer is a mark as well, so that the code point does not end the region.
    have hcloser : c ≠ q.closer := ne _ (by cases q <;> decide)
    simp [step, hcloser]

theorem run_filter_isMark (k : Cursor) (t : Text) : k.run (t.filter isMark) = k.run t := by
  induction t generalizing k with
  | nil => rfl
  | cons c t ih =>
    cases hc : isMark c with
    | true => rw [List.filter_cons_of_pos hc, run_cons, run_cons, ih]
    | false =>
      rw [List.filter_cons_of_neg (by simp [hc]), run_cons, step_of_isMark_eq_false hc, ih]

theorem surplus?_filter_isMark (k : Cursor) (t : Text) :
    k.surplus? (t.filter isMark) = (k.surplus? t).map (·.filter isMark) := by
  induction t generalizing k with
  | nil => rfl
  | cons c t ih =>
    cases hc : isMark c with
    | true =>
      rw [List.filter_cons_of_pos hc, surplus?, surplus?]
      split
      · rfl
      · exact ih _
    -- What is left out neither moves the cursor nor closes a parenthesis.
    | false =>
      have hne : ¬ (k = start ∧ c = ')') := by
        rintro ⟨-, rfl⟩
        exact absurd hc (by decide)
      rw [List.filter_cons_of_neg (by simp [hc]), ih, surplus?, if_neg hne,
        step_of_isMark_eq_false hc]

end Cursor

theorem balanced_filter_isMark_iff {t : Text} : Balanced (t.filter isMark) ↔ Balanced t := by
  constructor
  · rintro ⟨hsurplus, hrun⟩
    rw [Cursor.surplus?_filter_isMark, Option.map_eq_none_iff] at hsurplus
    rw [Cursor.run_filter_isMark] at hrun
    exact ⟨hsurplus, hrun⟩
  · rintro ⟨hsurplus, hrun⟩
    exact ⟨by rw [Cursor.surplus?_filter_isMark, hsurplus]; rfl,
      by rw [Cursor.run_filter_isMark, hrun]⟩

/-- Texts with the same quotes and parentheses are balanced together. -/
theorem balanced_congr {s t : Text} (h : s.filter isMark = t.filter isMark) :
    Balanced s ↔ Balanced t := by
  rw [← balanced_filter_isMark_iff, h, balanced_filter_isMark_iff]

/-- Cutting a text into fields and joining them by operators keeps its quotes and parentheses. -/
theorem filter_isMark_join_fields {separator : Text} (h : separator.filter isMark = []) (t : Text) :
    (Text.join separator (fields t)).filter isMark = t.filter isMark :=
  filter_join_fields (fun _ => isMark_eq_false_of_class (by decide)) rfl h t

end EscapeClause
