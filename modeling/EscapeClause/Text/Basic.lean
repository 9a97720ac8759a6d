import EscapeClause.Text.Blank

/-!
# Texts

A `Text` is its list of code points, so that every index and every length of this library counts
code points. Here are the operations that several parts share: trimming (`strip`), joining
(`join`), cutting a stretch by indices that may count from the end (`slice`), and upper and lower
case of ASCII letters.
-/

namespace EscapeClause

/-- A text, as the list of its code points. -/
abbrev Text := List Char

namespace Text

/-! ### Trimming -/

def stripStart (t : Text) : Text := t.dropWhile isBlank

def stripEnd (t : Text) : Text := (t.reverse.dropWhile isBlank).reverse

def strip (t : Text) : Text := stripEnd (stripStart t)

@[simp] theorem strip_nil : strip [] = [] := rfl

/-! ### Stretches of a class of code points -/

/-- A stretch of a class that nothing of the class follows is what reading the class takes. -/
theorem takeWhile_append_of_head? {p : Char → Bool} {s r : Text} (hs : ∀ c ∈ s, p c = true)
    (hr : ∀ c ∈ r.head?, p c = false) : (s ++ r).takeWhile p = s := by
  rw [List.takeWhile_append_of_pos hs]
  cases r with
  | nil => simp
  | cons c r => simp [hr c rfl]

theorem dropWhile_append_of_head? {p : Char → Bool} {s r : Text} (hs : ∀ c ∈ s, p c = true)
    (hr : ∀ c ∈ r.head?, p c = false) : (s ++ r).dropWhile p = r := by
  rw [List.dropWhile_append_of_pos hs]
  cases r with
  | nil => rfl
  | cons c r => simp [hr c rfl]

/-- Where a stretch of a class ends is decided by the text. -/
theorem append_inj_of_head? {p : Char → Bool} {s s' r r' : Text} (hs : ∀ c ∈ s, p c = true)
    (hs' : ∀ c ∈ s', p c = true) (hr : ∀ c ∈ r.head?, p c = false)
    (hr' : ∀ c ∈ r'.head?, p c = false) (h : s ++ r = s' ++ r') : s = s' ∧ r = r' := by
  have htake := congrArg (List.takeWhile p) h
  have hdrop := congrArg (List.dropWhile p) h
  rw [takeWhile_append_of_head? hs hr, takeWhile_append_of_head? hs' hr'] at htake
  rw [dropWhile_append_of_head? hs hr, dropWhile_append_of_head? hs' hr'] at hdrop
  exact ⟨htake, hdrop⟩

/-- Taking away from a start what another class does not have leaves that class alone. -/
theorem filter_dropWhile {p q : Char → Bool} (h : ∀ c, q c = true → p c = false) (t : Text) :
    (t.dropWhile q).filter p = t.filter p := by
  induction t with
  | nil => rfl
  | cons c r ih =>
    rw [List.dropWhile_cons]
    split
    · next hc => rw [ih, List.filter_cons_of_neg (by simp [h c hc])]
    · rfl

/-- Trimming leaves every class without white space alone. -/
theorem filter_strip {p : Char → Bool} (h : ∀ c, isBlank c = true → p c = false) (t : Text) :
    (strip t).filter p = t.filter p := by
  rw [strip, stripEnd, List.filter_reverse, filter_dropWhile h, ← List.filter_reverse,
    List.reverse_reverse, stripStart, filter_dropWhile h]

/-! ### Places in a text -/

/-- What holds at every place of a text holds at its first place and at the places after it. -/
theorem forall_place_cons_iff {P : Text → Char → Text → Prop} {c : Char} {t : Text} :
    (∀ s d r, c :: t = s ++ d :: r → P s d r) ↔
      P [] c t ∧ ∀ s d r, t = s ++ d :: r → P (c :: s) d r := by
  constructor
  · intro h
    refine ⟨h [] c t rfl, ?_⟩
    rintro s d r rfl
    exact h (c :: s) d r rfl
  · rintro ⟨hc, ht⟩ s d r heq
    -- A place of the longer text is its first code point or a place of the rest.
    cases s with
    | nil =>
      obtain ⟨rfl, rfl⟩ := List.cons.inj heq
      exact hc
    | cons e s =>
      obtain ⟨rfl, rfl⟩ := List.cons.inj heq
      exact ht s d r rfl

/-! ### Joining and cutting -/

def join (separator : Text) (parts : List Text) : Text := List.intercalate separator parts

@[simp] theorem join_nil (separator : Text) : join separator [] = [] := rfl

@[simp] theorem join_singleton (separator part : Text) : join separator [part] = part := by
  simp [join, List.intercalate]

theorem join_cons_cons (separator part next : Text) (rest : List Text) :
    join separator (part :: next :: rest) = part ++ separator ++ join separator (next :: rest) := by
  simp [join, List.intercalate, List.intersperse]

/-- What is kept by putting texts one after the other is kept by joining. -/
theorem join_induction {P : Text → Prop} (nil : P []) (append : ∀ {s t}, P s → P t → P (s ++ t))
    {separator : Text} (hseparator : P separator) {parts : List Text}
    (h : ∀ part ∈ parts, P part) : P (join separator parts) := by
  induction parts with
  | nil => exact nil
  | cons part rest ih =>
    rw [List.forall_mem_cons] at h
    cases rest with
    | nil =>
      rw [join_singleton]
      exact h.1
    | cons next rest =>
      rw [join_cons_cons]
      exact append (append h.1 hseparator) (ih h.2)

/-- Joining adds nothing of a class that the separator does not have. -/
theorem filter_join {p : Char → Bool} {separator : Text} (h : separator.filter p = [])
    (parts : List Text) : (join separator parts).filter p = parts.flatMap (·.filter p) := by
  induction parts with
  | nil => rfl
  | cons part rest ih =>
    cases rest with
    | nil => simp
    | cons next rest => simp [join_cons_cons, h, ih]

/-- Where an index falls in a text of the given length: an index below zero counts from the end,
and what lies outside the text is moved to its nearer end. -/
def clampIndex (length : Nat) (index : Int) : Nat :=
  let fromStart := if index < 0 then index + length else index
  min fromStart.toNat length

/-- The stretch of a text from index `start` to before index `stop`. -/
def slice (t : Text) (start stop : Int) : Text :=
  let first := clampIndex t.length start
  (t.drop first).take (clampIndex t.length stop - first)

/-- The parts of a text between the code points of a class. -/
def splitWhere (p : Char → Bool) : Text → List Text
  | [] => [[]]
  | c :: r => if p c then [] :: splitWhere p r else (splitWhere p r).modifyHead (c :: ·)

theorem splitWhere_ne_nil (p : Char → Bool) (t : Text) : splitWhere p t ≠ [] := by
  induction t with
  | nil => simp [splitWhere]
  | cons c r ih =>
    rw [splitWhere]
    split
    · simp
    · cases h : splitWhere p r with
      | nil => exact absurd h ih
      | cons part rest => simp

def splitAt (separator : Char) (t : Text) : List Text := splitWhere (· == separator) t

/-- The parts with the separator between each two are the text again. -/
theorem join_splitAt (separator : Char) (t : Text) :
    join [separator] (splitAt separator t) = t := by
  rw [splitAt]
  induction t with
  | nil => rfl
  | cons c r ih =>
    -- The first part of the rest takes in the code point unless it is a separator.
    obtain ⟨part, rest, hr⟩ := List.exists_cons_of_ne_nil (splitWhere_ne_nil (· == separator) r)
    rw [hr] at ih
    rw [splitWhere, hr]
    split
    · next hc => rw [join_cons_cons, ih, eq_of_beq hc]; rfl
    · rw [List.modifyHead_cons]
      cases rest with
      | nil => rw [join_singleton] at ih ⊢; rw [ih]
      | cons q qs => rw [join_cons_cons] at ih ⊢; rw [← ih]; rfl

def words (t : Text) : List Text := (splitWhere isBlank t).filter fun word => !word.isEmpty

/-- What follows `start`, if the text starts with it. -/
def dropStart? (t start : Text) : Option Text :=
  if start.isPrefixOf t then some (t.drop start.length) else none

theorem dropStart?_eq_some_iff {t start r : Text} :
    dropStart? t start = some r ↔ start ++ r = t := by
  have hstarts : start.isPrefixOf t = true ↔ start <+: t := List.isPrefixOf_iff_prefix
  rw [dropStart?]
  split
  · next h =>
    obtain ⟨s, rfl⟩ := hstarts.1 h
    rw [List.drop_left, Option.some.injEq, List.append_cancel_left_eq, eq_comm]
  · next h =>
    -- Whatever starts the text could be dropped.
    refine iff_of_false (fun hr => nomatch hr) ?_
    rintro rfl
    exact h (hstarts.2 ⟨r, rfl⟩)

def ofNat (n : Nat) : Text := Nat.toDigits 10 n

/-! ### Case of ASCII letters -/

def upperAscii (t : Text) : Text := t.map Char.toUpper

def lowerAscii (t : Text) : Text := t.map Char.toLower

/-! ### Order -/

/-- The order of code points: of two texts, the one with the lesser code point where they first
differ, and a text before every longer one that starts with it. -/
def le : Text → Text → Bool
  | [], _ => true
  | _ :: _, [] => false
  | a :: s, b :: t => if a = b then le s t else a.toNat < b.toNat

theorem le_total (s t : Text) : le s t || le t s := by
  induction s generalizing t with
  | nil => rfl
  | cons a s ih =>
    cases t with
    | nil => rfl
    | cons b t =>
      rw [le, le]
      by_cases h : a = b
      · rw [if_pos h, if_pos h.symm]
        exact ih t
      · -- Where the texts first differ, one code point is the lesser one.
        have hne : a.toNat ≠ b.toNat := fun hn => h (Char.toNat_inj.1 hn)
        rw [if_neg h, if_neg (Ne.symm h), Bool.or_eq_true, decide_eq_true_iff, decide_eq_true_iff]
        omega

theorem le_antisymm {s t : Text} (hst : le s t) (hts : le t s) : s = t := by
  induction s generalizing t with
  | nil =>
    cases t with
    | nil => rfl
    | cons b t => cases hts
  | cons a s ih =>
    cases t with
    | nil => cases hst
    | cons b t =>
      rw [le] at hst hts
      -- Two different first code points cannot each be the lesser one.
      by_cases h : a = b
      · rw [if_pos h] at hst
        rw [if_pos h.symm] at hts
        rw [h, ih hst hts]
      · rw [if_neg h, decide_eq_true_iff] at hst
        rw [if_neg (Ne.symm h), decide_eq_true_iff] at hts
        omega

theorem le_trans {s t u : Text} (hst : le s t) (htu : le t u) : le s u := by
  induction s generalizing t u with
  | nil => rfl
  | cons a s ih =>
    cases t with
    | nil => cases hst
    | cons b t =>
      cases u with
      | nil => cases htu
      | cons c u =>
        rw [le] at hst htu ⊢
        -- The order is decided where the first two texts part, or else where the last two do.
        by_cases hab : a = b
        · subst hab
          rw [if_pos rfl] at hst
          by_cases hac : a = c
          · rw [if_pos hac] at htu ⊢
            exact ih hst htu
          · rwa [if_neg hac] at htu ⊢
        · rw [if_neg hab, decide_eq_true_iff] at hst
          by_cases hbc : b = c
          · rwa [← hbc, if_neg hab, decide_eq_true_iff]
          · rw [if_neg hbc, decide_eq_true_iff] at htu
            have hac : ¬ a = c := by
              rintro rfl
              omega
            rw [if_neg hac, decide_eq_true_iff]
            omega

/-! ### Lines -/

/-- The text with each carriage return, alone or before a line feed, replaced by one line feed. -/
def unifyNewlines : Text → Text
  | [] => []
  | '\r' :: '\n' :: r => '\n' :: unifyNewlines r
  | '\r' :: r => '\n' :: unifyNewlines r
  | c :: r => c :: unifyNewlines r

end Text

end EscapeClause
