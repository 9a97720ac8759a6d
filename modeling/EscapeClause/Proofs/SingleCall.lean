import Mathlib.Data.List.TakeWhile
import EscapeClause.Handler
import EscapeClause.Proofs.Balance

/-!
# Single calls

A function clause is meant to be rewritten when its argument tail is one call: a name, white
space and at most one parenthesised group (`IsSingleCall`). `ScalarCall.ofText?` reads more than
that. The group it reads runs to the last parenthesis of the text, so that an expression such as
`user(a) || f(b)` is read as a call of `user` whose group is closed early
(`ScalarCall.ClosesEarly`).

Here is what the rewriting keeps of a balanced tail and when: a group that closes early is kept
by a renaming, dropped by the user function and cut apart by a concatenation
(`KeepsShape`, `process_scalarFunction_iff`).
-/

namespace EscapeClause

namespace ScalarCall

/-! ### Calls as they are written -/

/-- A text is a call: a name, white space, and a group or none. -/
structure Writes (call : ScalarCall) (t : Text) : Prop where
  name_ne_nil : call.name ≠ []
  all_isNameChar : ∀ c ∈ call.name, isNameChar c = true
  all_isBlank : ∀ c ∈ call.gap, Text.isBlank c = true
  spelling_eq : call.spelling = t

theorem not_isNameChar_of_isBlank {c : Char} (hc : Text.isBlank c = true) :
    isNameChar c = false :=
  Text.of_isBlank (P := fun c => isNameChar c = false) (by decide) hc

theorem group_eq_cons_iff {call : ScalarCall} {c : Char} {r : Text} :
    call.group = c :: r ↔ c = '(' ∧ ∃ inner, call.inner = some inner ∧ r = inner ++ [')'] := by
  obtain ⟨name, gap, inner⟩ := call
  cases inner with
  | none => simp [group, enclose]
  | some inner => simp [group, enclose, eq_comm]

theorem inner?_enclose (inner : Option Text) : inner? (enclose inner) = some inner := by
  cases inner with
  | none => rfl
  | some inner => simp [enclose, inner?]

/-- A name, white space and what a parenthesis starts are found again by their classes. -/
theorem cut_append {name gap r : Text} (hname : ∀ c ∈ name, isNameChar c = true)
    (hgap : ∀ c ∈ gap, Text.isBlank c = true) (hr : ∀ c ∈ r.head?, c = '(') :
    (name ++ (gap ++ r)).takeWhile isNameChar = name ∧
      (name ++ (gap ++ r)).dropWhile isNameChar = gap ++ r ∧
      (gap ++ r).takeWhile Text.isBlank = gap ∧ (gap ++ r).dropWhile Text.isBlank = r := by
  -- A name ends where the gap or the bracket begins, the gap where the bracket does.
  have hblank : ∀ c ∈ r.head?, Text.isBlank c = false := by
    intro c hc
    rw [hr c hc]
    decide
  have hhead : ∀ c ∈ (gap ++ r).head?, isNameChar c = false := by
    intro c hc
    cases gap with
    | nil =>
      rw [hr c hc]
      decide
    | cons d gap =>
      cases hc
      exact not_isNameChar_of_isBlank (hgap c List.mem_cons_self)
  exact ⟨Text.takeWhile_append_of_head? hname hhead, Text.dropWhile_append_of_head? hname hhead,
    Text.takeWhile_append_of_head? hgap hblank, Text.dropWhile_append_of_head? hgap hblank⟩

theorem eq_of_mem_head?_group (call : ScalarCall) : ∀ c ∈ call.group.head?, c = '(' := by
  intro c hc
  obtain ⟨r, hr⟩ := List.head?_eq_some_iff.1 hc
  exact (group_eq_cons_iff.1 hr).1

/-- Reading a text as a call succeeds exactly for the one call that it is. -/
theorem ofText?_eq_some_iff {call : ScalarCall} {t : Text} :
    ofText? t = some call ↔ call.Writes t := by
  constructor
  · intro h
    have hspelling := spelling_of_ofText? h
    unfold ofText? at h
    simp only at h
    split at h
    · cases h
    · next hname =>
      obtain ⟨inner, -, rfl⟩ := Option.map_eq_some_iff.1 h
      exact ⟨hname, fun c hc => List.mem_takeWhile_imp hc, fun c hc => List.mem_takeWhile_imp hc,
        hspelling⟩
  · intro h
    have htext : t = call.name ++ (call.gap ++ call.group) := by
      rw [← h.spelling_eq, spelling, List.append_assoc]
    -- A call is cut from its own spelling at the same places.
    obtain ⟨hname, hrest, hgap, hgroup⟩ :=
      cut_append h.all_isNameChar h.all_isBlank (eq_of_mem_head?_group call)
    rw [ofText?, htext]
    simp only [hname, hrest, hgap, hgroup]
    rw [if_neg h.name_ne_nil, group, inner?_enclose, Option.map_some]

theorem Writes.unique {call call' : ScalarCall} {t : Text} (h : call.Writes t)
    (h' : call'.Writes t) : call = call' :=
  Option.some.inj ((ofText?_eq_some_iff.2 h).symm.trans (ofText?_eq_some_iff.2 h'))

/-- The quotes and parentheses of a call are those of its group. -/
theorem Writes.filter_isMark {call : ScalarCall} {t : Text} (h : call.Writes t) :
    t.filter isMark = call.group.filter isMark := by
  have hname := filter_isMark_of_class (by decide) h.all_isNameChar
  have hgap := filter_isMark_of_class (by decide) h.all_isBlank
  rw [← h.spelling_eq, spelling, List.filter_append, List.filter_append, hname, hgap,
    List.nil_append, List.nil_append]

theorem Writes.balanced_group {call : ScalarCall} {t : Text} (h : call.Writes t)
    (ht : Balanced t) : Balanced call.group :=
  (balanced_congr h.filter_isMark).1 ht

/-! ### Where the group is closed -/

/-- The parenthesis that closes the first one of the group is followed by `rest`. -/
def ClosesBefore (call : ScalarCall) (rest : Text) : Prop :=
  ∃ s, Balanced s ∧ call.group = '(' :: (s ++ ')' :: rest)

/-- The group goes on after its first parenthesis is closed. -/
def ClosesEarly (call : ScalarCall) : Prop := ∃ rest, call.ClosesBefore rest ∧ rest ≠ []

theorem ClosesBefore.unique {call : ScalarCall} {rest rest' : Text} (h : call.ClosesBefore rest)
    (h' : call.ClosesBefore rest') : rest = rest' := by
  obtain ⟨s, hs, hg⟩ := h
  obtain ⟨s', hs', hg'⟩ := h'
  have heq : s ++ ')' :: rest = s' ++ ')' :: rest' := (List.cons.inj (hg.symm.trans hg')).2
  have hsurplus := congrArg Cursor.start.surplus? heq
  rw [hs.surplus?_append, hs'.surplus?_append, Cursor.surplus?_close,
    Cursor.surplus?_close] at hsurplus
  exact Option.some.inj hsurplus

theorem closesBefore_nil_iff {call : ScalarCall} :
    call.ClosesBefore [] ↔ ∃ inner, call.inner = some inner ∧ Balanced inner := by
  constructor
  · rintro ⟨s, hs, hg⟩
    obtain ⟨-, inner, hinner, heq⟩ := group_eq_cons_iff.1 hg
    rw [List.append_cancel_right heq] at hs
    exact ⟨inner, hinner, hs⟩
  · rintro ⟨inner, hinner, hb⟩
    exact ⟨inner, hb, group_eq_cons_iff.2 ⟨rfl, inner, hinner, rfl⟩⟩

/-- Some parenthesis of a balanced group closes its first one. -/
theorem exists_closesBefore {call : ScalarCall} {inner : Text} (h : Balanced call.group)
    (hinner : call.inner = some inner) : ∃ rest, call.ClosesBefore rest := by
  have hgroup : call.group = '(' :: inner ++ [')'] := by rw [group, hinner, enclose]
  cases hs : Cursor.start.surplus? inner with
  | none =>
    rw [hgroup] at h
    exact ⟨[], inner, balanced_of_balanced_group h hs, hgroup⟩
  | some r =>
    obtain ⟨s, rfl, hnone, hrun⟩ := Cursor.exists_of_surplus? hs
    exact ⟨r ++ [')'], s, ⟨hnone, hrun⟩, by rw [hgroup]; simp⟩

/-- What follows the closed parenthesis of a group that is closed early ends with the last
parenthesis of the group. -/
theorem ClosesBefore.exists_inner {call : ScalarCall} {rest : Text} (h : call.ClosesBefore rest)
    (hne : rest ≠ []) :
    ∃ s front, rest = front ++ [')'] ∧ call.inner = some (s ++ ')' :: front) := by
  obtain ⟨s, -, hg⟩ := h
  obtain ⟨front, last, rfl⟩ : ∃ front last, rest = front ++ [last] :=
    ⟨_, _, (List.dropLast_concat_getLast hne).symm⟩
  obtain ⟨-, inner, hinner, heq⟩ := group_eq_cons_iff.1 hg
  rw [← List.cons_append, ← List.append_assoc] at heq
  obtain ⟨rfl, hlast⟩ := List.append_inj' heq rfl
  exact ⟨s, front, by rw [hlast], hinner⟩

theorem ClosesBefore.balanced {call : ScalarCall} {rest : Text} (h : call.ClosesBefore rest)
    (hgroup : Balanced call.group) : Balanced rest := by
  obtain ⟨s, hs, hg⟩ := h
  rw [hg] at hgroup
  exact (balanced_group_append_iff hs rest).1 hgroup

theorem ClosesBefore.suffix_group {call : ScalarCall} {rest : Text} (h : call.ClosesBefore rest) :
    rest <:+ call.group := by
  obtain ⟨s, -, hg⟩ := h
  exact ⟨'(' :: (s ++ [')']), by rw [hg]; simp⟩

/-- The group of a balanced call is closed early exactly when its inside is not balanced. -/
theorem closesEarly_iff {call : ScalarCall} (h : Balanced call.group) :
    call.ClosesEarly ↔ ∃ inner, call.inner = some inner ∧ ¬ Balanced inner := by
  constructor
  · rintro ⟨rest, hrest, hne⟩
    obtain ⟨s, front, -, hinner⟩ := hrest.exists_inner hne
    refine ⟨_, hinner, fun hb => hne ?_⟩
    -- A balanced inner text would close the group at its last bracket.
    exact hrest.unique (closesBefore_nil_iff.2 ⟨_, hinner, hb⟩)
  · rintro ⟨inner, hinner, hb⟩
    obtain ⟨rest, hrest⟩ := exists_closesBefore h hinner
    refine ⟨rest, hrest, ?_⟩
    rintro rfl
    obtain ⟨inner', hinner', hb'⟩ := closesBefore_nil_iff.1 hrest
    rw [hinner] at hinner'
    cases hinner'
    exact hb hb'

end ScalarCall

/-- A text starts with a call, and `rest` follows the parenthesis that closes it. -/
def FollowsCall (rest t : Text) : Prop :=
  ∃ (first : ScalarCall) (front : Text), first.Writes front ∧
    (∃ s, first.inner = some s ∧ Balanced s) ∧ t = front ++ rest

/-- In a text that is a call the first call ends where its group is closed. -/
theorem followsCall_iff {call : ScalarCall} {rest t : Text} (h : call.Writes t) :
    FollowsCall rest t ↔ call.ClosesBefore rest := by
  have htext : t = call.name ++ (call.gap ++ call.group) := by
    rw [← h.spelling_eq, ScalarCall.spelling, List.append_assoc]
  constructor
  · rintro ⟨first, front, hfirst, ⟨s, hinner, hs⟩, rfl⟩
    have hfront : front ++ rest = first.name ++ (first.gap ++ '(' :: (s ++ ')' :: rest)) := by
      rw [← hfirst.spelling_eq, ScalarCall.spelling, ScalarCall.group, hinner, ScalarCall.enclose]
      simp
    -- Both spellings are cut after the name and the gap, which leaves the two groups equal.
    obtain ⟨-, hdrop, -, hgroup⟩ := ScalarCall.cut_append h.all_isNameChar h.all_isBlank
      (ScalarCall.eq_of_mem_head?_group call)
    obtain ⟨-, hdrop', -, hgroup'⟩ := ScalarCall.cut_append hfirst.all_isNameChar
      hfirst.all_isBlank (r := '(' :: (s ++ ')' :: rest)) (by simp)
    rw [← htext, hfront, hdrop'] at hdrop
    rw [← hdrop, hgroup'] at hgroup
    exact ⟨s, hs, hgroup.symm⟩
  · rintro ⟨s, hs, hg⟩
    refine ⟨⟨call.name, call.gap, some s⟩, call.name ++ call.gap ++ ('(' :: s ++ [')']),
      ⟨h.name_ne_nil, h.all_isNameChar, h.all_isBlank, rfl⟩, ⟨s, rfl, hs⟩, ?_⟩
    rw [htext, hg]
    simp

/-- A text is one single call: the parenthesis at its end, if it has a group, closes the first one
of the group. -/
def IsSingleCall (t : Text) : Prop :=
  ∃ call : ScalarCall, call.Writes t ∧ ∀ inner, call.inner = some inner → Balanced inner

theorem isSingleCall_iff {call : ScalarCall} {t : Text} (h : call.Writes t) (ht : Balanced t) :
    IsSingleCall t ↔ ¬ call.ClosesEarly := by
  rw [ScalarCall.closesEarly_iff (h.balanced_group ht)]
  constructor
  · rintro ⟨call', h', hb⟩ ⟨inner, hinner, hnot⟩
    rw [h'.unique h] at hb
    exact hnot (hb inner hinner)
  · intro hnot
    exact ⟨call, h, fun inner hinner => by_contra fun hb => hnot ⟨inner, hinner, hb⟩⟩

namespace ScalarCall

/-! ### Calls that the dialect rewrites -/

def IsRenamed (call : ScalarCall) : Prop :=
  (renamedFunctions.lookup (Text.upperAscii call.name)).isSome = true

def IsUser (call : ScalarCall) : Prop := Text.upperAscii call.name = "USER".toList

/-- A concatenation that has a group. -/
def IsConcatenation (call : ScalarCall) : Prop :=
  Text.upperAscii call.name = "CONCAT".toList ∧ call.inner.isSome = true

/-- A call that has a spelling of its own in SQLite. -/
def IsRewritten (call : ScalarCall) : Prop :=
  call.IsRenamed ∨ call.IsUser ∨ call.IsConcatenation

theorem IsUser.not_isRenamed {call : ScalarCall} (h : call.IsUser) : ¬ call.IsRenamed := by
  rw [IsRenamed, h]
  decide

theorem IsConcatenation.not_isRenamed {call : ScalarCall} (h : call.IsConcatenation) :
    ¬ call.IsRenamed := by
  rw [IsRenamed, h.1]
  decide

theorem IsConcatenation.not_isUser {call : ScalarCall} (h : call.IsConcatenation) :
    ¬ call.IsUser := by
  rw [IsUser, h.1]
  decide

/-- A renamed call has the other name before its group. -/
theorem IsRenamed.exists_entry {call : ScalarCall} (h : call.IsRenamed) :
    ∃ entry ∈ renamedFunctions, Text.upperAscii call.name = entry.1 ∧
      call.sqlite = entry.2 ++ call.group := by
  obtain ⟨renamed, hlookup⟩ := Option.isSome_iff_exists.1 h
  obtain ⟨front, back, hentries, -⟩ := List.lookup_eq_some_iff.1 hlookup
  refine ⟨(Text.upperAscii call.name, renamed), by simp [hentries], rfl, ?_⟩
  simp only [sqlite, hlookup]

theorem IsUser.sqlite_eq {call : ScalarCall} (h : call.IsUser) : call.sqlite = "''".toList := by
  have hlookup := Option.not_isSome_iff_eq_none.1 h.not_isRenamed
  simp only [sqlite, hlookup]
  exact if_pos h

theorem IsConcatenation.exists_inner {call : ScalarCall} (h : call.IsConcatenation) :
    ∃ inner, call.inner = some inner ∧
      call.sqlite = Text.join " || ".toList (fields inner) := by
  obtain ⟨inner, hinner⟩ := Option.isSome_iff_exists.1 h.2
  have hlookup := Option.not_isSome_iff_eq_none.1 h.not_isRenamed
  refine ⟨inner, hinner, ?_⟩
  simp only [sqlite, hlookup, hinner]
  exact (if_neg h.not_isUser).trans (if_pos h.1)

theorem sqlite_of_not_isRewritten {call : ScalarCall} (h : ¬ call.IsRewritten) :
    call.sqlite = call.spelling := by
  rw [IsRewritten, not_or, not_or] at h
  obtain ⟨hrenamed, huser, hconcatenation⟩ := h
  have hlookup := Option.not_isSome_iff_eq_none.1 hrenamed
  simp only [sqlite, hlookup]
  refine (if_neg huser).trans ?_
  split
  · next inner hinner => exact if_neg fun hname => hconcatenation ⟨hname, by rw [hinner]; rfl⟩
  · rfl

/-! ### What the dialect keeps -/

/-- No other name is the name it stands for, and all are names. -/
theorem renamedFunctions_sound : ∀ entry ∈ renamedFunctions,
    Text.upperAscii entry.2 ≠ entry.1 ∧ entry.2.all isNameChar = true := by
  decide

theorem sqlite_ne_of_isRenamed {call : ScalarCall} {t : Text} (h : call.Writes t)
    (hr : call.IsRenamed) : call.sqlite ≠ t := by
  obtain ⟨entry, hentry, hname, hsqlite⟩ := hr.exists_entry
  obtain ⟨hne, hchars⟩ := renamedFunctions_sound entry hentry
  intro heq
  rw [hsqlite, ← h.spelling_eq, spelling] at heq
  have hstart : entry.2 = call.name ++ call.gap := List.append_cancel_right heq
  -- The gap is white space and part of a name, so there is none.
  have hgap : call.gap = [] := by
    refine List.eq_nil_iff_forall_not_mem.2 fun c hc => ?_
    have hc' := List.all_eq_true.1 hchars c (by rw [hstart]; exact List.mem_append_right _ hc)
    rw [not_isNameChar_of_isBlank (h.all_isBlank c hc)] at hc'
    cases hc'
  rw [hgap, List.append_nil] at hstart
  exact hne (by rw [hstart, hname])

theorem sqlite_ne_of_isUser {call : ScalarCall} {t : Text} (h : call.Writes t)
    (hu : call.IsUser) : call.sqlite ≠ t := by
  intro heq
  obtain ⟨c, name, hname⟩ := List.exists_cons_of_ne_nil h.name_ne_nil
  have hc := h.all_isNameChar c (by simp [hname])
  rw [hu.sqlite_eq, ← h.spelling_eq, spelling, hname] at heq
  rw [← (List.cons.inj heq).1] at hc
  exact absurd hc (by decide)

/-- A concatenation loses the parentheses of its group. -/
theorem sqlite_ne_of_isConcatenation {call : ScalarCall} {t : Text} (h : call.Writes t)
    (hcat : call.IsConcatenation) : call.sqlite ≠ t := by
  obtain ⟨inner, hinner, hsqlite⟩ := hcat.exists_inner
  intro heq
  have hmarks : inner.filter isMark = call.group.filter isMark := by
    rw [← h.filter_isMark, ← heq, hsqlite, filter_isMark_join_fields rfl]
  rw [group, hinner, enclose, List.cons_append, List.filter_cons_of_pos rfl,
    List.filter_append] at hmarks
  have hlength := congrArg List.length hmarks
  simp only [List.length_cons, List.length_append] at hlength
  omega

/-- A renaming keeps the quotes and parentheses of the group. -/
theorem IsRenamed.filter_isMark {call : ScalarCall} (h : call.IsRenamed) :
    call.sqlite.filter isMark = call.group.filter isMark := by
  obtain ⟨entry, hentry, -, hsqlite⟩ := h.exists_entry
  have hchars := List.all_eq_true.1 (renamedFunctions_sound entry hentry).2
  have hname := filter_isMark_of_class (by decide) hchars
  rw [hsqlite, List.filter_append, hname, List.nil_append]

/-- The dialect changes the calls it has a spelling for and no others. -/
theorem sqlite_ne_iff {call : ScalarCall} {t : Text} (h : call.Writes t) :
    call.sqlite ≠ t ↔ call.IsRewritten := by
  constructor
  · intro hne
    by_contra hnot
    exact hne ((sqlite_of_not_isRewritten hnot).trans h.spelling_eq)
  · rintro (hr | hu | hcat)
    · exact sqlite_ne_of_isRenamed h hr
    · exact sqlite_ne_of_isUser h hu
    · exact sqlite_ne_of_isConcatenation h hcat

/-- Only a concatenation whose group is closed early loses its balance. -/
theorem balanced_sqlite_iff {call : ScalarCall} {t : Text} (h : call.Writes t) (ht : Balanced t) :
    Balanced call.sqlite ↔ (call.ClosesEarly → ¬ call.IsConcatenation) := by
  by_cases hcat : call.IsConcatenation
  · obtain ⟨inner, hinner, hsqlite⟩ := hcat.exists_inner
    -- Concatenation drops the brackets of the group and moves commas only.
    rw [hsqlite, balanced_congr (filter_isMark_join_fields rfl inner),
      closesEarly_iff (h.balanced_group ht)]
    constructor
    · rintro hb ⟨inner', hinner', hnot⟩
      rw [hinner] at hinner'
      cases hinner'
      exact absurd hb hnot
    · intro hearly
      by_contra hb
      exact hearly ⟨inner, hinner, hb⟩ hcat
  · refine iff_of_true ?_ fun _ => hcat
    by_cases hr : call.IsRenamed
    · exact (balanced_congr hr.filter_isMark).2 (h.balanced_group ht)
    · by_cases hu : call.IsUser
      · rw [hu.sqlite_eq]
        decide
      · rw [sqlite_of_not_isRewritten (by simp [IsRewritten, hr, hu, hcat]), h.spelling_eq]
        exact ht

/-- A concatenation cuts apart what follows the closed parenthesis. -/
theorem not_suffix_sqlite_of_isConcatenation {call : ScalarCall} {rest : Text}
    (hcat : call.IsConcatenation) (hgroup : Balanced call.group) (h : call.ClosesBefore rest)
    (hne : rest ≠ []) : ¬ rest <:+ call.sqlite := by
  intro hsuffix
  have hrest := h.balanced hgroup
  obtain ⟨s, front, rfl, hinner⟩ := h.exists_inner hne
  obtain ⟨inner, hinner', hsqlite⟩ := hcat.exists_inner
  rw [hinner] at hinner'
  cases hinner'
  -- Among the marks of the result the ones of `front` follow a parenthesis, not precede it.
  have hresult : call.sqlite.filter isMark = s.filter isMark ++ ')' :: front.filter isMark := by
    rw [hsqlite, filter_isMark_join_fields rfl, List.filter_append, List.filter_cons_of_pos rfl]
  have hmarks : (front ++ [')']).filter isMark = front.filter isMark ++ [')'] := by
    rw [List.filter_append, List.filter_cons_of_pos rfl, List.filter_nil]
  have hlength : (front.filter isMark ++ [')']).length = (')' :: front.filter isMark).length := by
    simp
  have hkept := hsuffix.filter isMark
  rw [hresult, hmarks] at hkept
  have heq : front.filter isMark ++ [')'] = ')' :: front.filter isMark :=
    (List.suffix_of_suffix_length_le hkept (List.suffix_append _ _) hlength.le).eq_of_length hlength
  -- A balanced text does not start by closing a parenthesis.
  have hbalanced := (balanced_filter_isMark_iff.2 hrest).surplus?_eq_none
  rw [hmarks, heq, Cursor.surplus?_close] at hbalanced
  cases hbalanced

/-- What follows the closed parenthesis is kept, unless the group is dropped or cut apart. -/
theorem suffix_sqlite_iff {call : ScalarCall} {t rest : Text} (h : call.Writes t)
    (ht : Balanced t) (hrest : call.ClosesBefore rest) (hne : rest ≠ []) :
    rest <:+ call.sqlite ↔ ¬ call.IsUser ∧ ¬ call.IsConcatenation := by
  by_cases hcat : call.IsConcatenation
  · exact iff_of_false (not_suffix_sqlite_of_isConcatenation hcat (h.balanced_group ht) hrest hne)
      fun hnot => hnot.2 hcat
  · by_cases hu : call.IsUser
    · refine iff_of_false ?_ fun hnot => hnot.1 hu
      obtain ⟨s, front, rfl, -⟩ := hrest.exists_inner hne
      rw [hu.sqlite_eq]
      -- What a user call becomes ends in a quote, and `rest` ends in a bracket.
      rintro ⟨start, hstart⟩
      have hlast := congrArg List.getLast? hstart
      rw [← List.append_assoc, List.getLast?_concat] at hlast
      exact absurd hlast (by decide)
    · refine iff_of_true ?_ ⟨hu, hcat⟩
      by_cases hr : call.IsRenamed
      · obtain ⟨entry, -, -, hsqlite⟩ := hr.exists_entry
        rw [hsqlite]
        exact hrest.suffix_group.trans (List.suffix_append _ _)
      · rw [sqlite_of_not_isRewritten (by simp [IsRewritten, hr, hu, hcat])]
        exact hrest.suffix_group.trans (List.suffix_append _ _)

end ScalarCall

/-! ### What is kept of an argument tail -/

/-- What the rewriting of an argument tail is meant to keep. -/
structure KeepsShape (t out : Text) : Prop where
  /-- Nothing but a single call is changed. -/
  isSingleCall : out ≠ t → IsSingleCall t
  balanced : Balanced out
  /-- What follows the first call stays at the end. -/
  suffix : ∀ rest, FollowsCall rest t → rest <:+ out

theorem sqliteCall_of_writes {call : ScalarCall} {t : Text} (h : call.Writes t) :
    sqliteCall t = call.sqlite := by
  rw [sqliteCall, ScalarCall.ofText?_eq_some_iff.2 h]

theorem sqliteCall_of_not_writes {t : Text} (h : ∀ call : ScalarCall, ¬ call.Writes t) :
    sqliteCall t = t := by
  cases hcall : ScalarCall.ofText? t with
  | none => rw [sqliteCall, hcall]
  | some call => exact absurd (ScalarCall.ofText?_eq_some_iff.1 hcall) (h call)

theorem FollowsCall.suffix {rest t : Text} (h : FollowsCall rest t) : rest <:+ t := by
  obtain ⟨first, front, -, -, rfl⟩ := h
  exact List.suffix_append _ _

/-- A tail that is a call keeps what follows its first call exactly when its group is not both
closed early and dropped or cut apart. -/
theorem forall_suffix_sqlite_iff {call : ScalarCall} {t : Text} (h : call.Writes t)
    (ht : Balanced t) :
    (∀ rest, FollowsCall rest t → rest <:+ call.sqlite) ↔
      (call.ClosesEarly → ¬ call.IsUser ∧ ¬ call.IsConcatenation) := by
  constructor
  · rintro hkept ⟨rest, hrest, hne⟩
    exact (ScalarCall.suffix_sqlite_iff h ht hrest hne).1
      (hkept rest ((followsCall_iff h).2 hrest))
  · intro hearly rest hfollows
    have hrest := (followsCall_iff h).1 hfollows
    by_cases hne : rest = []
    · rw [hne]
      exact List.nil_suffix
    · exact (ScalarCall.suffix_sqlite_iff h ht hrest hne).2 (hearly ⟨rest, hrest, hne⟩)

theorem keepsShape_sqlite_iff {call : ScalarCall} {t : Text} (h : call.Writes t)
    (ht : Balanced t) :
    KeepsShape t call.sqlite ↔ (call.ClosesEarly → ¬ call.IsRewritten) := by
  constructor
  · intro hkeeps hearly hrewritten
    have hsingle := hkeeps.isSingleCall ((ScalarCall.sqlite_ne_iff h).2 hrewritten)
    exact (isSingleCall_iff h ht).1 hsingle hearly
  · intro hearly
    -- The three parts of the shape: a single call, balance, and what follows the call.
    refine ⟨fun hne => ?_, ?_, ?_⟩
    · rw [isSingleCall_iff h ht]
      exact fun he => hearly he ((ScalarCall.sqlite_ne_iff h).1 hne)
    · exact (ScalarCall.balanced_sqlite_iff h ht).2 fun he hcat => hearly he (.inr (.inr hcat))
    · exact (forall_suffix_sqlite_iff h ht).2 fun he =>
        ⟨fun hu => hearly he (.inr (.inl hu)), fun hcat => hearly he (.inr (.inr hcat))⟩

/-- The function handler always answers. Of a balanced argument tail it keeps the shape exactly
when the tail is not a rewritten call whose group is closed early. Where it does not, balance is
lost in concatenations only, and what follows the first call in concatenations and calls of the
user function. -/
theorem process_scalarFunction_iff {σ : Type} (keyword args : Text) (state : σ)
    (h : Balanced args) :
    ∃ out, (Handler.scalarFunction : Handler σ).process keyword args state = some (out, state) ∧
      (KeepsShape args out ↔
        ∀ call : ScalarCall, call.Writes args → call.ClosesEarly → ¬ call.IsRewritten) ∧
      (Balanced out ↔
        ∀ call : ScalarCall, call.Writes args → call.ClosesEarly → ¬ call.IsConcatenation) ∧
      ((∀ rest, FollowsCall rest args → rest <:+ out) ↔
        ∀ call : ScalarCall, call.Writes args → call.ClosesEarly →
          ¬ call.IsUser ∧ ¬ call.IsConcatenation) := by
  refine ⟨sqliteCall args, rfl, ?_⟩
  by_cases hcall : ∃ call : ScalarCall, call.Writes args
  · obtain ⟨call, hw⟩ := hcall
    -- The text is no other call, so what holds of this call holds of every one.
    have hall : ∀ P : ScalarCall → Prop,
        (∀ call' : ScalarCall, call'.Writes args → P call') ↔ P call :=
      fun P => ⟨fun hP => hP call hw, fun hP call' hw' => hw.unique hw' ▸ hP⟩
    rw [sqliteCall_of_writes hw, hall, hall, hall]
    exact ⟨keepsShape_sqlite_iff hw h, ScalarCall.balanced_sqlite_iff hw h,
      forall_suffix_sqlite_iff hw h⟩
  · rw [not_exists] at hcall
    rw [sqliteCall_of_not_writes hcall]
    refine ⟨iff_of_true ⟨fun hne => absurd rfl hne, h, fun _ hf => hf.suffix⟩ ?_,
      iff_of_true h ?_, iff_of_true (fun _ hf => hf.suffix) ?_⟩ <;>
    exact fun call hw => absurd hw (hcall call)

/-- A concatenation of a name and a group keeps its shape. -/
theorem keepsShape_nested_group :
    Balanced "concat(a, (b))".toList ∧
      ∃ out, (Handler.scalarFunction : Handler Unit).process "fn".toList "concat(a, (b))".toList ()
          = some (out, ()) ∧ KeepsShape "concat(a, (b))".toList out := by
  have hbalanced : Balanced "concat(a, (b))".toList := by decide
  obtain ⟨out, hprocess, hkeeps, -⟩ :=
    process_scalarFunction_iff "fn".toList "concat(a, (b))".toList () hbalanced
  refine ⟨hbalanced, out, hprocess, hkeeps.2 fun call hw hearly => ?_⟩
  have hcall : some call = some ⟨"concat".toList, [], some "a, (b)".toList⟩ :=
    (ScalarCall.ofText?_eq_some_iff.2 hw).symm.trans (by decide)
  cases hcall
  have hsingle : IsSingleCall "concat(a, (b))".toList := by
    refine ⟨_, hw, ?_⟩
    rintro _ ⟨⟩
    decide
  exact absurd hearly ((isSingleCall_iff hw hbalanced).1 hsingle)

/-- Two calls joined by an operator are taken for one call of the user function, and the second
one is lost. -/
theorem process_scalarFunction_two_calls :
    Balanced "user(a) || f(b)".toList ∧
      (Handler.scalarFunction : Handler Unit).process "fn".toList "user(a) || f(b)".toList ()
        = some ("''".toList, ()) ∧
      "''".toList ≠ "user(a) || f(b)".toList ∧ ¬ IsSingleCall "user(a) || f(b)".toList := by
  refine ⟨by decide, by decide, by decide, ?_⟩
  rintro ⟨call, hw, hinner⟩
  have hcall : some call = some ⟨"user".toList, [], some "a) || f(b".toList⟩ :=
    (ScalarCall.ofText?_eq_some_iff.2 hw).symm.trans (by decide)
  cases hcall
  exact absurd (hinner _ rfl) (by decide)

end EscapeClause
