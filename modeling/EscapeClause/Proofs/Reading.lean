import EscapeClause.Proofs.Items

/-!
# What a reader has read

A reader of escaped text moves in eleven ways (`Reader.Move`), and every proof about readers goes
along these. Two results tie readers to the grammar of `Items`:

* `Reader.feed_spelling`: a reader that stands in plain text reads whatever a sequence of items
  spells, comes upon the events of the items and stands in plain text again, with the same clauses
  open.
* `Reader.reads_feed`: what a reader has read is a sequence of items on every level, up to the
  place where it stands (`Levels`, `Reads`). So a text after which nothing is missing is spelled by
  items.

Together: a text has an outline without a refusal exactly when items spell it
(`Outline.refusal_eq_none_iff`).
-/

namespace EscapeClause

namespace Reader

/-! ### Moves -/

section Steps

variable {p b : Nat} {cs : List Clause} {c : Char} {q : Quote} {read : Text}

theorem step_plain (hc : isPlain c = true) :
    step ⟨p, .plain, cs⟩ c = .ok (⟨p + 1, .plain, cs⟩, [.write c]) := by
  obtain ⟨hq, hopen, hclose⟩ := isPlain_iff.1 hc
  simp [step, stepPlain, advance, hq, hopen, hclose]

theorem step_opener :
    step ⟨p, .plain, cs⟩ q.opener = .ok (⟨p + 1, .quoted q p, cs⟩, [.write q.opener]) := by
  simp [step, stepPlain, advance]

theorem step_brace : step ⟨p, .plain, cs⟩ '\x7b' = .ok (⟨p + 1, .keyword p [], cs⟩, []) := rfl

theorem step_leave {k : Clause} :
    step ⟨p, .plain, k :: cs⟩ '\x7d' = .ok (⟨p + 1, .plain, cs⟩, [.leave k cs.length]) := rfl

theorem step_quoted (hc : c ≠ q.closer) :
    step ⟨p, .quoted q b, cs⟩ c = .ok (⟨p + 1, .quoted q b, cs⟩, [.write c]) := by
  simp [step, advance, hc]

theorem step_closer :
    step ⟨p, .quoted q b, cs⟩ q.closer = .ok (⟨p + 1, .plain, cs⟩, [.write q.closer]) := by
  simp [step, advance]

theorem step_keyword (hc : isKeywordChar c = true) :
    step ⟨p, .keyword b read, cs⟩ c = .ok (⟨p + 1, .keyword b (c :: read), cs⟩, []) := by
  obtain ⟨hblank, hclose⟩ := isKeywordChar_iff.1 hc
  simp [step, advance, hblank, hclose]

theorem step_missing (hc : isKeywordChar c = false) :
    step ⟨p, .keyword b [], cs⟩ c = .error ⟨.missingKeyword, b⟩ := by
  rcases isKeywordChar_eq_false_iff.1 hc with hblank | rfl
  · simp [step, hblank]
  · simp [step]

theorem step_tail (hc : Text.isBlank c = true) (hread : read ≠ []) :
    step ⟨p, .keyword b read, cs⟩ c = .ok (⟨p + 1, .plain, ⟨b, read.reverse⟩ :: cs⟩,
      [.enter ⟨b, read.reverse⟩, .write c]) := by
  obtain ⟨hq, hopen, hclose⟩ := isPlain_iff.1 (isPlain_of_isBlank hc)
  simp [step, stepAfterKeyword, stepPlain, advance, hc, hread, hq, hopen, hclose]

theorem step_bare (hread : read ≠ []) :
    step ⟨p, .keyword b read, cs⟩ '\x7d' = .ok (⟨p + 1, .plain, cs⟩,
      [.enter ⟨b, read.reverse⟩, .leave ⟨b, read.reverse⟩ cs.length]) := by
  have hq : Quote.ofOpener? '\x7d' = none := by decide
  simp [step, stepAfterKeyword, stepPlain, advance, hread, hq]

end Steps

/-- What one more code point does to a reader. -/
inductive Move : Reader → Char → Except Refusal (Reader × List Event) → Prop
  | plain {p cs c} (hc : isPlain c = true) :
    Move ⟨p, .plain, cs⟩ c (.ok (⟨p + 1, .plain, cs⟩, [.write c]))
  | opener {p cs} (q : Quote) :
    Move ⟨p, .plain, cs⟩ q.opener (.ok (⟨p + 1, .quoted q p, cs⟩, [.write q.opener]))
  | brace {p cs} : Move ⟨p, .plain, cs⟩ '\x7b' (.ok (⟨p + 1, .keyword p [], cs⟩, []))
  /-- The innermost clause ends after its tail. -/
  | leave {p k cs} :
    Move ⟨p, .plain, k :: cs⟩ '\x7d' (.ok (⟨p + 1, .plain, cs⟩, [.leave k cs.length]))
  /-- A closing brace where no clause is open. -/
  | unopened {p} : Move ⟨p, .plain, []⟩ '\x7d' (.error ⟨.unopenedClause, p⟩)
  | quoted {p q b cs c} (hc : c ≠ q.closer) :
    Move ⟨p, .quoted q b, cs⟩ c (.ok (⟨p + 1, .quoted q b, cs⟩, [.write c]))
  | closer {p b cs} (q : Quote) :
    Move ⟨p, .quoted q b, cs⟩ q.closer (.ok (⟨p + 1, .plain, cs⟩, [.write q.closer]))
  | keyword {p b read cs c} (hc : isKeywordChar c = true) :
    Move ⟨p, .keyword b read, cs⟩ c (.ok (⟨p + 1, .keyword b (c :: read), cs⟩, []))
  /-- A keyword ends where it begins. -/
  | missing {p b cs c} (hc : isKeywordChar c = false) :
    Move ⟨p, .keyword b [], cs⟩ c (.error ⟨.missingKeyword, b⟩)
  /-- White space ends a keyword and begins the tail. -/
  | tail {p b read cs c} (hc : Text.isBlank c = true) (hread : read ≠ []) :
    Move ⟨p, .keyword b read, cs⟩ c (.ok (⟨p + 1, .plain, ⟨b, read.reverse⟩ :: cs⟩,
      [.enter ⟨b, read.reverse⟩, .write c]))
  /-- A closing brace ends a keyword and its clause. -/
  | bare {p b read cs} (hread : read ≠ []) :
    Move ⟨p, .keyword b read, cs⟩ '\x7d' (.ok (⟨p + 1, .plain, cs⟩,
      [.enter ⟨b, read.reverse⟩, .leave ⟨b, read.reverse⟩ cs.length]))

/-- A step is one of the moves. -/
theorem move_step (s : Reader) (c : Char) : Move s c (s.step c) := by
  obtain ⟨p, mode, cs⟩ := s
  -- One case per mode, and in each the classes of characters in the order `step` asks for them.
  cases mode with
  | plain =>
    cases hq : Quote.ofOpener? c with
    | some q =>
      rw [Quote.ofOpener?_eq_some_iff.1 hq, step_opener]
      exact .opener q
    | none =>
      by_cases hopen : c = '\x7b'
      · subst hopen
        exact .brace
      by_cases hclose : c = '\x7d'
      · subst hclose
        cases cs with
        | nil => exact .unopened
        | cons k cs => exact .leave
      have hc : isPlain c = true := isPlain_iff.2 ⟨hq, hopen, hclose⟩
      rw [step_plain hc]
      exact .plain hc
  | quoted q b =>
    by_cases hc : c = q.closer
    · rw [hc, step_closer]
      exact .closer q
    · rw [step_quoted hc]
      exact .quoted hc
  | keyword b read =>
    by_cases hc : isKeywordChar c = true
    · rw [step_keyword hc]
      exact .keyword hc
    rw [Bool.not_eq_true] at hc
    by_cases hread : read = []
    · rw [hread, step_missing hc]
      exact .missing hc
    rcases isKeywordChar_eq_false_iff.1 hc with hblank | rfl
    · rw [step_tail hblank hread]
      exact .tail hblank hread
    · rw [step_bare hread]
      exact .bare hread

/-! ### Reading what items spell -/

/-- Reading a text that is not refused, and then more. -/
theorem feed_append_eq {s s' : Reader} {t : Text} {events : List Event}
    (h : s.feed t = (events, .ok s')) (u : Text) :
    s.feed (t ++ u) = (events ++ (s'.feed u).1, (s'.feed u).2) := by
  have hread : (s.feed t).2 = .ok s' := by rw [h]
  rw [feed_append hread, h]

theorem feed_cons_eq {s s' s'' : Reader} {c : Char} {events more : List Event} {t : Text}
    (hstep : s.step c = .ok (s', events)) (h : s'.feed t = (more, .ok s'')) :
    s.feed (c :: t) = (events ++ more, .ok s'') := by
  rw [feed_cons_of_ok hstep, h]

theorem feed_quoted {p b : Nat} {cs : List Clause} {q : Quote} {body : Text}
    (hb : q.closer ∉ body) :
    feed ⟨p, .quoted q b, cs⟩ body =
      (body.map .write, .ok ⟨p + body.length, .quoted q b, cs⟩) := by
  induction body generalizing p with
  | nil => rfl
  | cons c r ih =>
    rw [List.mem_cons, not_or] at hb
    rw [feed_cons_eq (step_quoted fun hc => hb.1 hc.symm) (ih hb.2)]
    simp [Nat.add_right_comm, Nat.add_assoc]

theorem feed_keyword {p b : Nat} {cs : List Clause} {read t : Text}
    (ht : ∀ c ∈ t, isKeywordChar c = true) :
    feed ⟨p, .keyword b read, cs⟩ t =
      ([], .ok ⟨p + t.length, .keyword b (t.reverse ++ read), cs⟩) := by
  induction t generalizing p read with
  | nil => rfl
  | cons c r ih =>
    rw [feed_cons_eq (step_keyword (ht c (by simp))) (ih fun x hx => ht x (by simp [hx]))]
    simp [Nat.add_right_comm, Nat.add_assoc]

/-- What follows a keyword is read as if the reader had entered the clause already. -/
theorem feed_after_keyword {p b : Nat} {read : Text} {cs : List Clause} {c : Char}
    (hread : read ≠ []) (hc : isKeywordChar c = false) (t : Text) :
    feed ⟨p, .keyword b read, cs⟩ (c :: t) =
      (.enter ⟨b, read.reverse⟩ :: (feed ⟨p, .plain, ⟨b, read.reverse⟩ :: cs⟩ (c :: t)).1,
        (feed ⟨p, .plain, ⟨b, read.reverse⟩ :: cs⟩ (c :: t)).2) := by
  -- Both ways to end a keyword leave the reader plain with the clause open, so feeding `c` again
  -- from there gives the rest.
  rcases isKeywordChar_eq_false_iff.1 hc with hblank | rfl
  · rw [feed_cons_of_ok (step_tail hblank hread),
      feed_cons_of_ok (step_plain (isPlain_of_isBlank hblank))]
    rfl
  · rw [feed_cons_of_ok (step_bare hread), feed_cons_of_ok step_leave]
    rfl

end Reader

/-- What a reader comes upon in a sequence of items that starts at index `p`, where `depth` clauses
are open. -/
def Items.events (p depth : Nat) : Items → List Event
  | nil => []
  | plain c _ rest => .write c :: rest.events (p + 1) depth
  | quoted q body _ rest =>
    .write q.opener :: (body.map .write ++
      .write q.closer :: rest.events (p + 1 + body.length + 1) depth)
  | bare k rest =>
    .enter ⟨p, k.text⟩ :: .leave ⟨p, k.text⟩ depth ::
      rest.events (p + 1 + k.text.length + 1) depth
  | clause k c _ tail rest =>
    .enter ⟨p, k.text⟩ :: .write c :: (tail.events (p + 1 + k.text.length + 1) (depth + 1) ++
      .leave ⟨p, k.text⟩ depth ::
        rest.events (p + 1 + k.text.length + 1 + tail.spelling.length + 1) depth)

/-- A reader in plain text reads items from end to end. -/
theorem Reader.feed_spelling (items : Items) (p : Nat) (cs : List Clause) :
    feed ⟨p, .plain, cs⟩ items.spelling =
      (items.events p cs.length, .ok ⟨p + items.spelling.length, .plain, cs⟩) := by
  induction items generalizing p cs with
  | nil => rfl
  | plain c hc rest ih =>
    rw [Items.spelling, feed_cons_eq (step_plain hc) (ih _ _)]
    simp only [Items.events, List.length_cons, List.cons_append, List.nil_append]
    -- What is left of each case are the positions, which add up.
    congr 3
    omega
  | quoted q body hb rest ih =>
    rw [Items.spelling, feed_cons_of_ok step_opener, feed_append_eq (feed_quoted hb),
      feed_cons_eq step_closer (ih _ _)]
    simp only [Items.events, List.length_cons, List.length_append, List.cons_append,
      List.nil_append]
    congr 3
    omega
  | bare k rest ih =>
    rw [Items.spelling, feed_cons_of_ok step_brace,
      feed_append_eq (feed_keyword k.all_isKeywordChar),
      feed_cons_eq (step_bare (by simpa using k.ne_nil)) (ih _ _)]
    simp only [Items.events, List.length_cons, List.length_append, List.cons_append,
      List.nil_append, List.append_nil, List.reverse_reverse]
    congr 3
    omega
  | clause k c hc tail rest ihtail ih =>
    rw [Items.spelling, feed_cons_of_ok step_brace,
      feed_append_eq (feed_keyword k.all_isKeywordChar),
      feed_cons_of_ok (step_tail hc (by simpa using k.ne_nil)), feed_append_eq (ihtail _ _),
      feed_cons_eq step_leave (ih _ _)]
    simp only [Items.events, List.length_cons, List.length_append, List.cons_append,
      List.nil_append, List.append_nil, List.reverse_reverse]
    congr 3
    omega

/-! ### What has been read so far -/

/-- A text that may stop inside clauses: items on the outermost level and, for each clause that is
open, its keyword, the white space after it and the items of its tail so far. -/
inductive Levels
  | outermost (items : Items)
  | within (around : Levels) (k : Keyword) (c : Char) (hc : Text.isBlank c = true) (tail : Items)

namespace Levels

def spelling : Levels → Text
  | outermost items => items.spelling
  | within around k c _ tail => around.spelling ++ '\x7b' :: (k.text ++ c :: tail.spelling)

def clauses : Levels → List Clause
  | outermost _ => []
  | within around k _ _ _ => ⟨around.spelling.length, k.text⟩ :: around.clauses

def extend (l : Levels) (items : Items) : Levels :=
  match l with
  | outermost before => outermost (before.append items)
  | within around k c hc tail => within around k c hc (tail.append items)

@[simp] theorem spelling_extend (l : Levels) (items : Items) :
    (l.extend items).spelling = l.spelling ++ items.spelling := by
  cases l <;> simp [extend, spelling]

@[simp] theorem clauses_extend (l : Levels) (items : Items) :
    (l.extend items).clauses = l.clauses := by
  cases l <;> rfl

end Levels

namespace Reader

/-- A reader that has read the text from its start stands here. -/
inductive Reads : Text → Reader → Prop
  | plain (l : Levels) : Reads l.spelling ⟨l.spelling.length, .plain, l.clauses⟩
  | quoted (l : Levels) (q : Quote) (body : Text) (hb : q.closer ∉ body) :
    Reads (l.spelling ++ q.opener :: body)
      ⟨(l.spelling ++ q.opener :: body).length, .quoted q l.spelling.length, l.clauses⟩
  | keyword (l : Levels) (k : Text) (hk : ∀ c ∈ k, isKeywordChar c = true) :
    Reads (l.spelling ++ '\x7b' :: k)
      ⟨(l.spelling ++ '\x7b' :: k).length, .keyword l.spelling.length k.reverse, l.clauses⟩

/-- The same place in plain text, described by its levels. -/
theorem reads_of_levels {t : Text} {p : Nat} {cs : List Clause} (l : Levels)
    (ht : l.spelling = t) (hp : t.length = p) (hcs : l.clauses = cs) :
    Reads t ⟨p, .plain, cs⟩ := by
  subst ht hp hcs
  exact .plain l

theorem reads_start : Reads [] start := reads_of_levels (.outermost .nil) rfl rfl rfl

theorem reads_step {t : Text} {s s' : Reader} {c : Char} {events : List Event}
    (h : Reads t s) (hstep : s.step c = .ok (s', events)) : Reads (t ++ [c]) s' := by
  have hmove := move_step s c
  rw [hstep] at hmove
  -- Each move extends the reading `h` gives by one character: `Levels.extend` puts a finished item
  -- at the innermost level.
  cases hmove with
  | plain hc =>
    cases h with
    | plain l =>
      exact reads_of_levels (l.extend (.plain c hc .nil)) (by simp [Items.spelling])
        (by simp) (by simp)
  | opener q =>
    cases h with
    | plain l => simpa using Reads.quoted l q [] (by simp)
  | brace =>
    cases h with
    | plain l => simpa using Reads.keyword l [] (by simp)
  | @leave p k cs =>
    -- A closing brace turns the innermost level into an item of the level around it.
    generalize hcs : k :: cs = open' at h
    cases h with
    | plain l =>
      cases l with
      | outermost items => cases hcs
      | within around k' c hc tail =>
        obtain ⟨rfl, rfl⟩ := List.cons.inj hcs
        exact reads_of_levels (around.extend (.clause k' c hc tail .nil))
          (by simp [Items.spelling, Levels.spelling]) (by simp) (by simp)
  | @quoted p q b cs c hc =>
    cases h with
    | quoted l q body hb =>
      have hbody : q.closer ∉ body ++ [c] := by simp [hb, Ne.symm hc]
      simpa [Nat.add_assoc] using Reads.quoted l q (body ++ [c]) hbody
  | closer q =>
    cases h with
    | quoted l q body hb =>
      exact reads_of_levels (l.extend (.quoted q body hb .nil))
        (by simp [Items.spelling]) (by simp [Nat.add_assoc]) (by simp)
  | keyword hc =>
    cases h with
    | keyword l k hk =>
      have hmore : ∀ x ∈ k ++ [c], isKeywordChar x = true := by
        intro x hx
        rcases List.mem_append.1 hx with hx | hx
        · exact hk x hx
        · rw [List.mem_singleton.1 hx]
          exact hc
      simpa [Nat.add_assoc] using Reads.keyword l (k ++ [c]) hmore
  | tail hc hread =>
    cases h with
    | keyword l k hk =>
      exact reads_of_levels (.within l ⟨k, by simpa using hread, hk⟩ c hc .nil)
        (by simp [Items.spelling, Levels.spelling]) (by simp [Nat.add_assoc])
        (by simp [Levels.clauses])
  | bare hread =>
    cases h with
    | keyword l k hk =>
      exact reads_of_levels (l.extend (.bare ⟨k, by simpa using hread, hk⟩ .nil))
        (by simp [Items.spelling]) (by simp [Nat.add_assoc]) (by simp)

/-- Reading on from a place that is known. -/
theorem reads_feed {t u : Text} {s s' : Reader} (h : Reads t s) (hfeed : (s.feed u).2 = .ok s') :
    Reads (t ++ u) s' := by
  induction u generalizing t s with
  | nil =>
    cases hfeed
    simpa using h
  | cons c r ih =>
    cases hstep : s.step c with
    | error refusal =>
      rw [feed_cons_of_error hstep] at hfeed
      cases hfeed
    | ok moved =>
      rw [feed_cons_of_ok hstep] at hfeed
      have := ih (reads_step h hstep) hfeed
      rwa [List.append_assoc] at this

/-- A text that leaves its reader outside everything is spelled by items. -/
theorem Reads.exists_items {t : Text} {s : Reader} (h : Reads t s) (hmode : s.mode = .plain)
    (hcs : s.clauses = []) : ∃ items : Items, items.spelling = t := by
  cases h with
  | plain l =>
    cases l with
    | outermost items => exact ⟨items, rfl⟩
    | within around k c hc tail => cases hcs
  | quoted l q body hb => cases hmode
  | keyword l k hk => cases hmode

/-- A text is refused on the way by one step. -/
theorem exists_step_of_feed {s : Reader} {t : Text} {refusal : Refusal}
    (h : (s.feed t).2 = .error refusal) :
    ∃ u c v s', t = u ++ c :: v ∧ (s.feed u).2 = .ok s' ∧ s'.step c = .error refusal := by
  -- The refused character is the first that the reader does not step over.
  induction t generalizing s with
  | nil => cases h
  | cons c r ih =>
    cases hstep : s.step c with
    | error refusal' =>
      rw [feed_cons_of_error hstep] at h
      cases h
      exact ⟨[], c, r, s, rfl, rfl, hstep⟩
    | ok moved =>
      rw [feed_cons_of_ok hstep] at h
      obtain ⟨u, d, v, s', rfl, hfeed, hrefused⟩ := ih h
      exact ⟨c :: u, d, v, s', rfl, by rw [feed_cons_of_ok hstep, hfeed], hrefused⟩

/-- Nothing is missing only in plain text outside all clauses. -/
theorem missing?_eq_none_iff {s : Reader} :
    s.missing? = none ↔ s.mode = .plain ∧ s.clauses = [] := by
  obtain ⟨p, mode, cs⟩ := s
  cases mode with
  | plain => simp [missing?]
  | quoted q b => simp [missing?]
  | keyword b read => cases read <;> simp [missing?]

end Reader

/-- A text is refused on the way or for what is missing at its end. -/
theorem Outline.cases_of_refusal {t : Text} {refusal : Refusal}
    (h : (ofText t).refusal = some refusal) :
    (Reader.start.feed t).2 = .error refusal ∨
      ∃ s, (Reader.start.feed t).2 = .ok s ∧ s.missing? = some refusal := by
  unfold ofText at h
  cases hfeed : (Reader.start.feed t).2 with
  | error refusal' =>
    simp only [hfeed, Option.some.injEq] at h
    exact .inl (congrArg _ h)
  | ok s =>
    simp only [hfeed] at h
    exact .inr ⟨s, rfl, h⟩

/-- What a reader comes upon in a text it comes upon in every longer one. -/
theorem Outline.events_isPrefix (t u : Text) :
    (ofText t).events <+: (ofText (t ++ u)).events := by
  show (Reader.start.feed t).1 <+: (Reader.start.feed (t ++ u)).1
  cases hfeed : (Reader.start.feed t).2 with
  | error refusal =>
    exact ⟨[], by rw [Reader.feed_append_of_error hfeed, List.append_nil]⟩
  | ok s =>
    rw [Reader.feed_append hfeed]
    exact List.prefix_append _ _

/-- A text has an outline without a refusal exactly when items spell it. -/
theorem Outline.refusal_eq_none_iff {t : Text} :
    (Outline.ofText t).refusal = none ↔ ∃ items : Items, items.spelling = t := by
  constructor
  · intro h
    unfold Outline.ofText at h
    cases hfeed : (Reader.start.feed t).2 with
    | error refusal => simp [hfeed] at h
    | ok s =>
      simp only [hfeed] at h
      -- Nothing is missing at the end: the reader is plain and every clause is closed.
      obtain ⟨hmode, hcs⟩ := Reader.missing?_eq_none_iff.1 h
      exact (Reader.reads_feed Reader.reads_start hfeed).exists_items hmode hcs
  · rintro ⟨items, rfl⟩
    simp [Outline.ofText, Reader.start, Reader.feed_spelling, Reader.missing?]

/-- The outline of what items spell. -/
theorem Outline.ofText_spelling (items : Items) :
    Outline.ofText items.spelling = ⟨items.events 0 0, none⟩ := by
  simp [Outline.ofText, Reader.start, Reader.feed_spelling, Reader.missing?]

end EscapeClause
