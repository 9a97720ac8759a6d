import EscapeClause.Proofs.ClauseFree

/-!
# Quoted regions of cursors and readers

A cursor goes along a text to find its fields, and a reader to find its clauses. Both know which
quoted region they are in, and as long as no brace stands outside all regions they agree on it:
the text is clause free where the cursor ends outside (`clauseFreeFrom_iff_cursor`), and otherwise
the reader misses the closer of the region that the cursor entered last (`Cursor.exists_opener`,
`Outline.ofText_open_quote`).

The main statement is `expand_of_cursor`: the cursor tells whether a text without clauses is
expanded, and where it is refused if not.
-/

namespace EscapeClause

variable {σ : Type}

/-! ### Where a cursor meets braces -/

namespace Cursor

/-- A cursor at this place meets no brace outside quoted regions. -/
def BraceFree (k : Cursor) (t : Text) : Prop :=
  ∀ s c r, t = s ++ c :: r → (k.run s).quote = none → c ≠ '\x7b' ∧ c ≠ '\x7d'

/-- The region that the cursor is in at the end of the text is of this kind, begins at index `p`
and is never closed. -/
structure OpenFrom (t : Text) (q : Quote) (p : Nat) : Prop where
  lt_length : p < t.length
  outside : (start.run (t.take p)).quote = none
  inside : ∀ n, p < n → n ≤ t.length → (start.run (t.take n)).quote = some q

theorem quote_run (k : Cursor) (t : Text) : (k.run t).quote = regionAfter k.quote t := by
  induction t generalizing k with
  | nil => rfl
  | cons c r ih => rw [run_cons, ih, quote_step, regionAfter_cons]

theorem braceFree_nil (k : Cursor) : k.BraceFree [] := by
  intro s c r h
  simp at h

theorem braceFree_cons_iff {k : Cursor} {c : Char} {t : Text} :
    k.BraceFree (c :: t) ↔
      (k.quote = none → c ≠ '\x7b' ∧ c ≠ '\x7d') ∧ (k.step c).BraceFree t :=
  Text.forall_place_cons_iff

instance decidableBraceFree : (k : Cursor) → (t : Text) → Decidable (k.BraceFree t)
  | k, [] => isTrue k.braceFree_nil
  | k, c :: t =>
    have := decidableBraceFree (k.step c) t
    decidable_of_iff _ braceFree_cons_iff.symm

/-- A region that is open at the end was open at the start and is not closed in the text, or it
begins behind a clause free part of the text and is not closed in what follows. -/
theorem exists_opener {k : Cursor} {t : Text} {q : Quote} (hbraces : k.BraceFree t)
    (h : (k.run t).quote = some q) :
    (k.quote = some q ∧ q.closer ∉ t) ∨
      ∃ s body, t = s ++ q.opener :: body ∧ ClauseFreeFrom k.quote s ∧ q.closer ∉ body := by
  induction t generalizing k with
  | nil => exact .inl ⟨h, List.not_mem_nil⟩
  | cons c t ih =>
    obtain ⟨hc, ht⟩ := braceFree_cons_iff.1 hbraces
    rcases ih ht h with ⟨hquote, hcloser⟩ | ⟨s, body, rfl, hs, hbody⟩
    -- The code point is the opener, or it stands in a region that was open before.
    · rw [quote_step] at hquote
      cases hk : k.quote with
      | none =>
        rw [hk] at hquote
        obtain rfl := Quote.ofOpener?_eq_some_iff.1 hquote
        exact .inr ⟨[], t, rfl, clauseFreeFrom_nil_iff.2 rfl, hcloser⟩
      | some q' =>
        rw [hk, regionStep] at hquote
        split at hquote
        · cases hquote
        · next hne =>
          cases hquote
          exact .inl ⟨rfl, List.not_mem_cons_of_ne_of_not_mem (Ne.symm hne) hcloser⟩
    · rw [quote_step] at hs
      exact .inr ⟨c :: s, body, rfl, clauseFreeFrom_cons_iff.2 ⟨hc, hs⟩, hbody⟩

/-- Behind a clause free part of a text, an opener begins a region; without its closer it stays
open. -/
theorem openFrom_of_clauseFree {s body : Text} {q : Quote} (hs : ClauseFree s)
    (hbody : q.closer ∉ body) : OpenFrom (s ++ q.opener :: body) q s.length where
  lt_length := by simp
  outside := by
    rw [List.take_left, quote_run]
    exact hs.closed
  inside := by
    intro n hn _
    obtain ⟨m, rfl⟩ := Nat.exists_eq_add_of_lt hn
    have hmem : q.closer ∉ body.take m := fun hmem => hbody (List.mem_of_mem_take hmem)
    have hclosed : regionAfter start.quote s = none := hs.closed
    have hopen : regionStep none q.opener = some q := Quote.ofOpener?_opener q
    -- Past the opener every prefix is `s`, the opener and a part of the body without the closer.
    rw [Nat.add_assoc, List.take_length_add_append, List.take_succ_cons, quote_run,
      regionAfter_append, hclosed, regionAfter_cons, hopen, regionAfter_inside hmem]

end Cursor

/-- A text is clause free where a cursor meets no brace and ends outside quoted regions. -/
theorem clauseFreeFrom_iff_cursor {k : Cursor} {t : Text} :
    ClauseFreeFrom k.quote t ↔ k.BraceFree t ∧ (k.run t).quote = none := by
  constructor
  · rintro ⟨hclosed, hbraces⟩
    refine ⟨?_, by rw [Cursor.quote_run, hclosed]⟩
    intro s c r ht hs
    rw [Cursor.quote_run] at hs
    exact hbraces s c r ht hs
  · rintro ⟨hbraces, hclosed⟩
    rw [Cursor.quote_run] at hclosed
    refine ⟨hclosed, ?_⟩
    intro s c r ht hs
    rw [← Cursor.quote_run] at hs
    exact hbraces s c r ht hs

/-! ### Where a reader ends -/

/-- Items without clauses spell a clause free text. -/
theorem Items.clauseFree_spelling {items : Items} (h : items.keywords = []) :
    ClauseFree items.spelling := by
  induction items with
  | nil => exact clauseFreeFrom_nil_iff.2 rfl
  | plain c hc rest ih =>
    have hplain : ClauseFree [c] := clauseFree_of_plain (by simpa using hc)
    exact hplain.append (ih h)
  | quoted q body hb rest ih =>
    have hregion := (ClauseFree.quoted q body hb).append (ih h)
    simpa [spelling] using hregion
  | bare k rest ih => cases h
  | clause k c hc tail rest ihtail ih => cases h

/-- Without any registered keyword a text is expanded only if it has no clauses. -/
theorem clauseFree_of_expand_empty {text out : Text} {state : σ}
    (h : (expand (∅ : Registry σ) text state).result = .ok out) : ClauseFree text := by
  obtain ⟨items, rfl, w, hvalue, -⟩ := expand_ok_iff_value.1 h
  have hanswers := (items.value_isSome_iff state).1 (by rw [hvalue]; rfl)
  refine Items.clauseFree_spelling (List.eq_nil_iff_forall_not_mem.2 fun k hk => ?_)
  have hkeys := (hanswers k hk).mem_keys
  cases hkeys

/-- A reader that ends in a quoted region misses its closer. -/
theorem Outline.ofText_open_quote {s body : Text} {q : Quote} (hs : ClauseFree s)
    (hbody : q.closer ∉ body) :
    ofText (s ++ q.opener :: body) =
      ⟨(s ++ q.opener :: body).map .write, some ⟨.unterminatedQuote, s.length⟩⟩ := by
  have hfeed := Reader.feed_of_clauseFreeFrom hs 0 0 []
  simp only [Mode.ofRegion, Nat.zero_add] at hfeed
  -- The reader copies all of the text and ends inside the region, which it then refuses.
  have hread : Reader.start.feed (s ++ q.opener :: body) =
      ((s ++ q.opener :: body).map .write,
        .ok ⟨s.length + 1 + body.length, .quoted q s.length, []⟩) := by
    rw [Reader.start, Reader.feed_append_eq hfeed,
      Reader.feed_cons_eq Reader.step_opener (Reader.feed_quoted hbody)]
    simp
  simp [ofText, hread, Reader.missing?]

/-! ### Expanding -/

/-- A cursor tells what comes of a text without clauses. With no keyword registered, a text is
expanded exactly when the cursor meets no brace outside quoted regions and ends outside them, and
then to itself. With any registry, a text on which the cursor meets no such brace is its own
expansion if the cursor ends outside, and is refused where the region begins in which it ends if
not; no handler is called. -/
theorem expand_of_cursor (handlers : Registry σ) (text : Text) (state : σ) :
    (∀ out, (expand (∅ : Registry σ) text state).result = .ok out ↔
      out = text ∧ Cursor.start.BraceFree text ∧ (Cursor.start.run text).quote = none) ∧
    (Cursor.start.BraceFree text →
      ((Cursor.start.run text).quote = none → expand handlers text state = ⟨.ok text, [], state⟩) ∧
      ∀ q, (Cursor.start.run text).quote = some q → ∃ p, Cursor.OpenFrom text q p ∧
        expand handlers text state =
          ⟨.error (.malformed (.ofPosition .unterminatedQuote text p)), [], state⟩) := by
  have hfree : ClauseFree text ↔
      Cursor.start.BraceFree text ∧ (Cursor.start.run text).quote = none :=
    clauseFreeFrom_iff_cursor (k := .start)
  constructor
  · intro out
    rw [← hfree]
    constructor
    · intro h
      have htext := clauseFree_of_expand_empty h
      rw [htext.expand_eq] at h
      cases h
      exact ⟨rfl, htext⟩
    · rintro ⟨rfl, htext⟩
      rw [htext.expand_eq]
  · intro hbraces
    refine ⟨fun hclosed => (hfree.2 ⟨hbraces, hclosed⟩).expand_eq handlers state, ?_⟩
    intro q hopen
    rcases Cursor.exists_opener hbraces hopen with ⟨hstart, -⟩ | ⟨s, body, rfl, hs, hbody⟩
    · cases hstart
    · -- The region that is never closed begins after a clause-free text, which was copied as it is.
      have houtline := Outline.ofText_open_quote hs hbody
      refine ⟨s.length, Cursor.openFrom_of_clauseFree hs hbody, ?_⟩
      rw [expand_of_events_eq_write (congrArg Outline.events houtline), houtline]
      rfl

/-- Two kinds of quotes inside the third one, a closer that closes nothing, and a region that is
left open with a brace in it. -/
theorem expand_of_cursor_open_bracket :
    Cursor.start.BraceFree "a ] \"'[\" [b'\x7b".toList ∧
      (Cursor.start.run "a ] \"'[\" [b'\x7b".toList).quote = some .bracket ∧
      ∃ p, Cursor.OpenFrom "a ] \"'[\" [b'\x7b".toList .bracket p ∧
        expandStandard "a ] \"'[\" [b'\x7b".toList =
          ⟨.error (.malformed (.ofPosition .unterminatedQuote "a ] \"'[\" [b'\x7b".toList p)),
            [], ()⟩ := by
  have hbraces : Cursor.start.BraceFree "a ] \"'[\" [b'\x7b".toList := by decide
  have hopen : (Cursor.start.run "a ] \"'[\" [b'\x7b".toList).quote = some .bracket := by decide
  exact ⟨hbraces, hopen, (expand_of_cursor Registry.standard _ ()).2 hbraces |>.2 _ hopen⟩

end EscapeClause
