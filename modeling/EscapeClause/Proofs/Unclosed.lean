import EscapeClause.Proofs.Positions

/-!
# Clauses that are never closed

Among the clauses that a text leaves open there is an outermost one. Its brace is the last place up
to which the text is expanded (`OutermostUnclosed`), and there an error for a clause that is never
closed is found. One text is an exception, the one that stops at an opening brace inside a clause
(`StopsAtInnerBrace`): it is refused at that brace.

The main statement is `unterminatedClause_position_iff`.
-/

namespace EscapeClause

variable {σ : Type}

/-- The brace at `q` opens the outermost clause that is never closed: what stands before it is
expanded, and no longer beginning of the text is. -/
structure OutermostUnclosed (handlers : Registry σ) (text : Text) (q : Nat) : Prop where
  getElem?_eq : text[q]? = some '\x7b'
  expand_take (state : σ) : ∃ out, (expand handlers (text.take q) state).result = .ok out
  not_expand_take (n : Nat) (hq : q < n) (hn : n ≤ text.length) (state : σ) :
    ¬ ∃ out, (expand handlers (text.take n) state).result = .ok out

/-- The text stops at an opening brace inside a clause. -/
def StopsAtInnerBrace (text : Text) : Prop :=
  ∃ l : Levels, l.clauses ≠ [] ∧ text = l.spelling ++ ['\x7b']

section

variable {handlers : Registry σ}

/-- At the outermost clause that is never closed the text before is expanded, and only there. -/
theorem OutermostUnclosed.expand_take_iff {text : Text} {p q : Nat}
    (h : OutermostUnclosed handlers text q) (hq : q ≤ p) (hp : p ≤ text.length) (state : σ) :
    (∃ out, (expand handlers (text.take p) state).result = .ok out) ↔ p = q := by
  constructor
  · intro hout
    by_contra hne
    exact h.not_expand_take p (by omega) hp state hout
  · rintro rfl
    exact h.expand_take state

/-- A brace behind items opens the outermost clause that is never closed if no text that ends
further on has an outline without a refusal. -/
theorem outermostUnclosed_of_items {items : Items} {rest : Text}
    (hanswers : handlers.AnswersAll (Outline.ofText (items.spelling ++ '\x7b' :: rest)).events)
    (hlonger : ∀ n, n ≤ (items.spelling ++ '\x7b' :: rest).length →
      (Outline.ofText ((items.spelling ++ '\x7b' :: rest).take n)).refusal = none →
        n ≤ items.spelling.length) :
    OutermostUnclosed handlers (items.spelling ++ '\x7b' :: rest) items.spelling.length where
  getElem?_eq := by simp
  expand_take state := by
    rw [List.take_left]
    exact items.exists_expand_of_answers hanswers state
  not_expand_take n hq hn state hout :=
    Nat.not_le.2 hq (hlonger n hn (exists_expand_iff.1 hout).1)

/-- A text that is blamed for a brace behind items does not stop inside a clause. -/
theorem not_stopsAtInnerBrace {items : Items} {rest : Text}
    (h : (Outline.ofText (items.spelling ++ '\x7b' :: rest)).refusal =
      some ⟨.unterminatedClause, items.spelling.length⟩) :
    ¬ StopsAtInnerBrace (items.spelling ++ '\x7b' :: rest) := by
  rintro ⟨l, hopen, heq⟩
  rw [heq, l.outline_append_brace] at h
  have hlength : items.spelling.length = l.spelling.length := by
    simpa using h.symm
  have hspelling : l.spelling = (Levels.outermost items).spelling :=
    (List.append_inj heq hlength).1.symm
  exact hopen (Levels.clauses_eq hspelling)

/-- Where a text stops at a brace inside a clause, the outermost clause that is never closed begins
before that brace. -/
theorem exists_outermostUnclosed_of_clauses_ne_nil {l : Levels} (hopen : l.clauses ≠ [])
    (hanswers : handlers.AnswersAll (Outline.ofText (l.spelling ++ ['\x7b'])).events) :
    ∃ q, q < l.spelling.length ∧ OutermostUnclosed handlers (l.spelling ++ ['\x7b']) q := by
  have hlast := List.getLast?_eq_some_getLast hopen
  obtain ⟨items, rest, hspelling, hbrace⟩ := Levels.exists_items_of_getLast?_clauses hlast
  have htext : l.spelling ++ ['\x7b'] = items.spelling ++ '\x7b' :: (rest ++ ['\x7b']) := by
    rw [hspelling, List.append_assoc]
    rfl
  refine ⟨items.spelling.length, by simp [hspelling], ?_⟩
  rw [htext] at hanswers ⊢
  refine outermostUnclosed_of_items hanswers fun n hn hrefusal => ?_
  rw [← htext] at hn hrefusal
  -- A beginning that is not refused ends before the last brace, and so before the outermost one.
  have hle : n ≤ l.spelling.length :=
    Outline.le_position_of_take (by rw [l.outline_append_brace]) hn hrefusal
  rw [List.take_append_of_le_length hle] at hrefusal
  have hposition := Outline.le_position_of_take (by rw [l.outline_eq, hlast]; rfl) hle hrefusal
  exact Nat.le_trans hposition (Nat.le_of_eq hbrace)

/-- A clause that is never closed is reported at its own brace or at the brace at which the text
stops inside it. -/
theorem exists_outermostUnclosed {text : Text} {p : Nat}
    (h : (Outline.ofText text).refusal = some ⟨.unterminatedClause, p⟩)
    (hanswers : handlers.AnswersAll (Outline.ofText text).events) :
    ∃ q, q ≤ p ∧ OutermostUnclosed handlers text q ∧ (p = q ↔ ¬ StopsAtInnerBrace text) ∧
      (StopsAtInnerBrace text → p + 1 = text.length) := by
  have hpoints := Outline.pointsAt_of_refusal h
  -- Where the position is right after complete items, it is the outermost brace itself.
  have hunclosed : ∀ {items : Items} {rest : Text}, text = items.spelling ++ '\x7b' :: rest →
      p = items.spelling.length → OutermostUnclosed handlers text p ∧ ¬ StopsAtInnerBrace text := by
    rintro items rest rfl rfl
    exact ⟨outermostUnclosed_of_items hanswers fun n => Outline.le_position_of_take h,
      not_stopsAtInnerBrace h⟩
  cases hpoints with
  | unclosed items rest =>
    obtain ⟨houtermost, hstops⟩ := hunclosed rfl rfl
    exact ⟨_, Nat.le_refl _, houtermost, iff_of_true rfl hstops, fun hs => absurd hs hstops⟩
  | last l =>
    -- The last character is the brace: it is the outermost one when no clause is open before it.
    by_cases hopen : l.clauses = []
    · obtain ⟨items, rfl⟩ := Levels.exists_items_of_clauses_eq_nil hopen
      obtain ⟨houtermost, hstops⟩ := hunclosed rfl rfl
      exact ⟨_, Nat.le_refl _, houtermost, iff_of_true rfl hstops, fun hs => absurd hs hstops⟩
    · obtain ⟨q, hq, houtermost⟩ := exists_outermostUnclosed_of_clauses_ne_nil hopen hanswers
      have hstops : StopsAtInnerBrace (l.spelling ++ ['\x7b']) := ⟨l, hopen, rfl⟩
      exact ⟨q, Nat.le_of_lt hq, houtermost,
        iff_of_false (by omega) (not_not_intro hstops), fun _ => by simp⟩

end

/-- A clause that is never closed is reported at the outermost one, before which the text is
expanded, unless the text stops at an opening brace inside a clause: then that last brace is
reported, and the outermost clause begins before it. -/
theorem unterminatedClause_position_iff (handlers : Registry σ) {text : Text} {state : σ}
    {e : SyntaxError} (h : (expand handlers text state).result = .error (.malformed e))
    (hcause : e.cause = .unterminatedClause) :
    ∃ p q : Nat, e.position = p ∧ text[p]? = some '\x7b' ∧ q ≤ p ∧
      OutermostUnclosed handlers text q ∧ (p = q ↔ ¬ StopsAtInnerBrace text) ∧
      (∀ state', (∃ out, (expand handlers (text.take p) state').result = .ok out) ↔
        ¬ StopsAtInnerBrace text) ∧
      (StopsAtInnerBrace text → p + 1 = text.length) := by
  rcases cases_of_malformed h with ⟨-, k, -, -, -, -, -, rfl⟩ | ⟨⟨cause, p⟩, hrefusal, hanswers, rfl⟩
  · cases hcause
  · obtain rfl : cause = .unterminatedClause := hcause
    have hbrace : text[p]? = some '\x7b' := (Outline.pointsAt_of_refusal hrefusal).showsAt hanswers
    obtain ⟨q, hq, houtermost, hiff, hstops⟩ := exists_outermostUnclosed hrefusal hanswers
    have hp : p < text.length := (List.getElem?_eq_some_iff.1 hbrace).1
    refine ⟨p, q, rfl, hbrace, hq, houtermost, hiff, fun state' => ?_, hstops⟩
    rw [houtermost.expand_take_iff hq (Nat.le_of_lt hp), hiff]

/-- A text that stops at the brace of a clause in the tail of another one. -/
theorem unterminatedClause_position_iff_inner :
    (expandStandard "a \x7blimit \x7b".toList).result =
        .error (.malformed (.ofPosition .unterminatedClause "a \x7blimit \x7b".toList 9)) ∧
      ∃ q : Nat, q < 9 ∧
        OutermostUnclosed (Registry.standard : Registry Unit) "a \x7blimit \x7b".toList q := by
  have hresult : (expandStandard "a \x7blimit \x7b".toList).result =
      .error (.malformed (.ofPosition .unterminatedClause "a \x7blimit \x7b".toList 9)) := by rfl
  obtain ⟨p, q, hposition, -, hq, houtermost, hiff, -, -⟩ :=
    unterminatedClause_position_iff Registry.standard hresult rfl
  obtain rfl : 9 = p := Int.natCast_inj.1 hposition
  -- The text is one level, inside `limit`, and the last brace.
  have hstops : StopsAtInnerBrace "a \x7blimit \x7b".toList :=
    ⟨.within (.outermost (.plain 'a' (by decide) (.plain ' ' (by decide) .nil)))
      ⟨"limit".toList, by decide, List.all_eq_true.1 (by decide)⟩ ' ' (by decide) .nil,
      by simp [Levels.clauses], rfl⟩
  have hne : 9 ≠ q := fun heq => hiff.1 heq hstops
  exact ⟨hresult, q, by omega, houtermost⟩

/-- A text that stops at a brace inside a clause is reported there, and the text before that place
is not expanded. -/
theorem expandStandard_reports_inner_brace :
    (expandStandard "\x7blimit \x7b".toList).result =
        .error (.malformed (.ofPosition .unterminatedClause "\x7blimit \x7b".toList 7)) ∧
      ¬ ∃ out, (expandStandard ("\x7blimit \x7b".toList.take 7)).result = .ok out := by
  refine ⟨rfl, ?_⟩
  rintro ⟨out, hout⟩
  cases hout

end EscapeClause
