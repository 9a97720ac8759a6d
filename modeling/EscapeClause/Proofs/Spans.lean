import EscapeClause.Proofs.Drafts
import EscapeClause.Proofs.Reading

/-!
# Where closed clauses stand

A closed clause takes up a stretch of the text, from its opening brace to its closing one. `Span`
is such a stretch, and `Span.StandsIn` says where one stands in a text, by the grammar alone:
levels are read before its brace, and its tail is a sequence of items. A span is determined by its
brace (`Span.eq_of_brace_eq`).

The clauses that a reader sees close are the spans of the levels that it has read, in closing
order (`exists_levels`), and these are all spans that stand in the text (`mem_spans_iff`).
Of two spans the one that closes first lies inside the other or ends before it begins
(`Span.Before`, `Levels.pairwise_spans`).
-/

namespace EscapeClause

/-- The stretch of a text that a closed clause takes up. -/
structure Span where
  closing : Closing
  /-- The index after the closing brace. -/
  stop : Nat
  deriving DecidableEq, Repr

namespace Span

def brace (s : Span) : Nat := s.closing.clause.brace

def depth (s : Span) : Nat := s.closing.depth

/-- One clause lies inside another: its braces stand between the braces of that one. -/
def Inside (i j : Span) : Prop := j.brace < i.brace ∧ i.stop < j.stop

/-- The clause stands in the text: levels are read before its brace, whose clauses are open around
it; its tail is a sequence of items and is empty or starts with white space; and its closing brace
follows the tail. -/
def StandsIn (s : Span) (t : Text) : Prop :=
  ∃ (around : Levels) (k : Keyword) (tail : Items) (rest : Text),
    t = around.spelling ++ '\x7b' :: (k.text ++ (tail.spelling ++ '\x7d' :: rest)) ∧
    (∀ c ∈ tail.spelling.head?, Text.isBlank c = true) ∧
    s.closing = ⟨⟨around.spelling.length, k.text⟩, around.clauses.length⟩ ∧
    t.length = s.stop + rest.length

/-- The first clause closes before the second one does, and it lies inside that one or ends before
that one begins. -/
structure Before (i j : Span) : Prop where
  stop_lt : i.stop < j.stop
  apart_or_inside : i.stop ≤ j.brace ∨ j.brace < i.brace ∧ j.depth < i.depth

theorem StandsIn.append {s : Span} {t : Text} (h : s.StandsIn t) (u : Text) :
    s.StandsIn (t ++ u) := by
  obtain ⟨around, k, tail, rest, ht, htail, hclosing, hstop⟩ := h
  refine ⟨around, k, tail, rest ++ u, by simp [ht], htail, hclosing, ?_⟩
  rw [List.length_append, List.length_append, hstop, Nat.add_assoc]

theorem StandsIn.brace_lt_stop {s : Span} {t : Text} (h : s.StandsIn t) : s.brace < s.stop := by
  obtain ⟨around, k, tail, rest, rfl, -, hclosing, hstop⟩ := h
  have hbrace : s.brace = around.spelling.length := by rw [brace, hclosing]
  simp at hstop
  omega

/-- At its brace the text goes on with the brace and the keyword. -/
theorem StandsIn.keyword_isPrefix {s : Span} {t : Text} (h : s.StandsIn t) :
    '\x7b' :: s.closing.clause.keyword <+: t.drop s.brace := by
  obtain ⟨around, k, tail, rest, rfl, -, hclosing, -⟩ := h
  rw [brace, hclosing, List.drop_left]
  exact ⟨tail.spelling ++ '\x7d' :: rest, by simp⟩

end Span

/-! ### Levels are determined by what they spell -/

namespace Levels

def events : Levels → List Event
  | outermost items => items.events 0 0
  | within around k c _ tail =>
    around.events ++ .enter ⟨around.spelling.length, k.text⟩ :: .write c ::
      tail.events (around.spelling.length + 1 + k.text.length + 1) (around.clauses.length + 1)

/-- A reader from the start reads levels and then stands in plain text, in the clauses of the
levels. -/
theorem feed_spelling (l : Levels) :
    Reader.start.feed l.spelling = (l.events, .ok ⟨l.spelling.length, .plain, l.clauses⟩) := by
  induction l with
  | outermost items =>
    have hfeed := Reader.feed_spelling items 0 []
    rwa [Nat.zero_add] at hfeed
  | within around k c hc tail ih =>
    -- The keyword is not empty, so its blank opens the clause.
    have hread : k.text.reverse ++ [] ≠ [] := by simpa using k.ne_nil
    rw [spelling, Reader.feed_append_eq ih, Reader.feed_cons_of_ok Reader.step_brace,
      Reader.feed_append_eq (Reader.feed_keyword k.all_isKeywordChar),
      Reader.feed_cons_of_ok (Reader.step_tail hc hread), Reader.feed_spelling]
    simp only [events, clauses, List.length_append, List.length_cons, List.append_nil,
      List.reverse_reverse, List.nil_append, List.cons_append]
    congr 3
    omega

/-- The clauses that are open after a text are determined by the text. -/
theorem clauses_eq {l l' : Levels} (h : l.spelling = l'.spelling) : l.clauses = l'.clauses := by
  have hfeed := l.feed_spelling
  rw [h, l'.feed_spelling] at hfeed
  simp only [Prod.mk.injEq, Except.ok.injEq, Reader.mk.injEq] at hfeed
  exact hfeed.2.2.2.symm

end Levels

/-- What follows the keyword of a closed clause ends it. -/
theorem not_isKeywordChar_of_head? {tail : Items}
    (htail : ∀ c ∈ tail.spelling.head?, Text.isBlank c = true) (rest : Text) :
    ∀ c ∈ (tail.spelling ++ '\x7d' :: rest).head?, isKeywordChar c = false := by
  intro c hc
  -- With an empty tail the next character is the closing brace.
  cases hspelling : tail.spelling with
  | nil =>
    rw [hspelling] at hc
    cases hc
    rfl
  | cons d r =>
    rw [hspelling] at hc htail
    cases hc
    exact not_isKeywordChar_of_isBlank (htail _ rfl)

/-- A closed clause is determined by where its brace stands. -/
theorem Span.eq_of_brace_eq {s s' : Span} {t : Text} (h : s.StandsIn t) (h' : s'.StandsIn t)
    (hbrace : s.brace = s'.brace) : s = s' := by
  obtain ⟨around, k, tail, rest, ht, htail, hclosing, hstop⟩ := h
  obtain ⟨around', k', tail', rest', ht', htail', hclosing', hstop'⟩ := h'
  rw [brace, brace, hclosing, hclosing'] at hbrace
  have heq := ht.symm.trans ht'
  obtain ⟨haround, hclause⟩ := List.append_inj heq hbrace
  -- The keyword ends where its tail or the closing brace begins, and the tail at the first brace
  -- that none of its items opens; so both are read off what follows the opening brace.
  obtain ⟨hk, hrest⟩ := Text.append_inj_of_head? k.all_isKeywordChar k'.all_isKeywordChar
    (not_isKeywordChar_of_head? htail rest) (not_isKeywordChar_of_head? htail' rest')
    (List.cons.inj hclause).2
  obtain ⟨-, hafter⟩ := Items.eq_of_spelling_append (Items.ends_brace _) (Items.ends_brace _) hrest
  obtain rfl : rest = rest' := (List.cons.inj hafter).2
  have hclosings : s.closing = s'.closing := by
    rw [hclosing, hclosing', haround, hk, Levels.clauses_eq haround]
  have hstops : s.stop = s'.stop := by omega
  cases s
  cases s'
  simp_all

/-! ### The spans of items -/

namespace Items

/-- The clauses of a sequence of items that starts at index `p`, where `depth` clauses are open, in
closing order. -/
def spans (p depth : Nat) : Items → List Span
  | nil => []
  | plain _ _ rest => rest.spans (p + 1) depth
  | quoted _ body _ rest => rest.spans (p + 1 + body.length + 1) depth
  | bare k rest =>
    ⟨⟨⟨p, k.text⟩, depth⟩, p + 1 + k.text.length + 1⟩ ::
      rest.spans (p + 1 + k.text.length + 1) depth
  | clause k _ _ tail rest =>
    tail.spans (p + 1 + k.text.length + 1) (depth + 1) ++
      ⟨⟨⟨p, k.text⟩, depth⟩, p + 1 + k.text.length + 1 + tail.spelling.length + 1⟩ ::
        rest.spans (p + 1 + k.text.length + 1 + tail.spelling.length + 1) depth

/-- What a reader sees close in items are their spans. -/
theorem closingsOf_events (items : Items) (p depth : Nat) :
    closingsOf (items.events p depth) = (items.spans p depth).map Span.closing := by
  induction items generalizing p depth with
  | nil => rfl
  | plain c hc rest ih => simp [events, spans, ih]
  | quoted q body hb rest ih => simp [events, spans, ih]
  | bare k rest ih => simp [events, spans, ih]
  | clause k c hc tail rest ihtail ih => simp [events, spans, ihtail, ih]

/-- The spans of items lie where the items stand, and as many clauses are open around them. -/
theorem bounds_of_mem_spans {items : Items} {p depth : Nat} {s : Span}
    (hs : s ∈ items.spans p depth) :
    p ≤ s.brace ∧ s.brace < s.stop ∧ s.stop ≤ p + items.spelling.length ∧ depth ≤ s.depth := by
  induction items generalizing p depth with
  | nil => cases hs
  | plain c hc rest ih =>
    have hrest := ih hs
    simp only [spelling, List.length_cons]
    omega
  | quoted q body hb rest ih =>
    have hrest := ih hs
    simp only [spelling, List.length_cons, List.length_append]
    omega
  | bare k rest ih =>
    simp only [spelling, List.length_cons, List.length_append]
    rcases List.mem_cons.1 hs with rfl | hs
    · simp only [Span.brace, Span.depth]
      omega
    · have hrest := ih hs
      omega
  | clause k c hc tail rest ihtail ih =>
    simp only [spelling, List.length_cons, List.length_append]
    rcases List.mem_append.1 hs with hs | hs
    · have htail := ihtail hs
      omega
    · rcases List.mem_cons.1 hs with rfl | hs
      · simp only [Span.brace, Span.depth]
        omega
      · have hrest := ih hs
        omega

/-- Items close inner clauses before outer ones and left before right. -/
theorem pairwise_spans (items : Items) (p depth : Nat) :
    (items.spans p depth).Pairwise Span.Before := by
  induction items generalizing p depth with
  | nil => exact .nil
  | plain c hc rest ih => exact ih _ _
  | quoted q body hb rest ih => exact ih _ _
  | bare k rest ih =>
    refine List.pairwise_cons.2 ⟨?_, ih _ _⟩
    intro j hj
    have hrest := bounds_of_mem_spans hj
    exact ⟨Nat.lt_of_le_of_lt hrest.1 hrest.2.1, .inl hrest.1⟩
  | clause k c hc tail rest ihtail ih =>
    refine List.pairwise_append.2 ⟨ihtail _ _, List.pairwise_cons.2 ⟨?_, ih _ _⟩, ?_⟩
    · intro j hj
      have hrest := bounds_of_mem_spans hj
      exact ⟨Nat.lt_of_le_of_lt hrest.1 hrest.2.1, .inl hrest.1⟩
    · intro i hi j hj
      have htail := bounds_of_mem_spans hi
      rcases List.mem_cons.1 hj with rfl | hj
      -- The clause itself closes after the clauses in its tail, which lie inside it.
      · obtain ⟨hbrace, -, hstop, hdepth⟩ := htail
        refine ⟨Nat.lt_succ_of_le hstop, .inr ⟨Nat.lt_of_lt_of_le ?_ hbrace, hdepth⟩⟩
        simp only [Span.brace]
        omega
      · have hrest := bounds_of_mem_spans hj
        exact ⟨by omega, .inl (by omega)⟩

theorem spans_append (i j : Items) (p depth : Nat) :
    (i.append j).spans p depth =
      i.spans p depth ++ j.spans (p + i.spelling.length) depth := by
  induction i generalizing p with
  | nil => rfl
  | plain c hc rest ih =>
    simp only [append, spans, spelling, ih, List.length_cons]
    congr 2
    omega
  | quoted q body hb rest ih =>
    simp only [append, spans, spelling, ih, List.length_cons, List.length_append]
    congr 2
    omega
  | bare k rest ih =>
    simp only [append, spans, spelling, ih, List.length_cons, List.length_append,
      List.cons_append]
    congr 3
    omega
  | clause k c hc tail rest _ ih =>
    simp only [append, spans, spelling, ih, List.length_cons, List.length_append,
      List.cons_append, List.append_assoc]
    congr 4
    omega

/-- The spans of items that are read after levels stand in the text. -/
theorem standsIn_of_mem_spans {items : Items} (around : Levels) {p depth : Nat} {s : Span}
    (hs : s ∈ items.spans p depth) (hp : around.spelling.length = p)
    (hdepth : around.clauses.length = depth) (rest : Text) :
    s.StandsIn (around.spelling ++ (items.spelling ++ rest)) := by
  -- The items passed are put into `around`: `hp` and `hdepth` say that its spelling and its open
  -- clauses are the position and the depth at which the rest is read.
  induction items generalizing around p depth rest with
  | nil => cases hs
  | plain c hc more ih =>
    have h := ih (around.extend (.plain c hc .nil)) hs (by simp [spelling, hp])
      (by simpa using hdepth) rest
    simpa [spelling] using h
  | quoted q body hb more ih =>
    have h := ih (around.extend (.quoted q body hb .nil)) hs
      (by simp [spelling]; omega) (by simpa using hdepth) rest
    simpa [spelling] using h
  | bare k more ih =>
    rcases List.mem_cons.1 hs with rfl | hs
    · refine ⟨around, k, nil, more.spelling ++ rest, by simp [spelling], by simp [spelling],
        by rw [hp, hdepth], ?_⟩
      simp [spelling]
      omega
    · have h := ih (around.extend (.bare k .nil)) hs (by simp [spelling]; omega)
        (by simpa using hdepth) rest
      simpa [spelling] using h
  | clause k c hc tail more ihtail ih =>
    rcases List.mem_append.1 hs with hs | hs
    · have h := ihtail (.within around k c hc .nil) hs
        (by simp [spelling, Levels.spelling]; omega) (by simp [Levels.clauses, hdepth])
        ('\x7d' :: (more.spelling ++ rest))
      simpa [spelling, Levels.spelling] using h
    · rcases List.mem_cons.1 hs with rfl | hs
      · refine ⟨around, k, plain c (isPlain_of_isBlank hc) tail, more.spelling ++ rest,
          by simp [spelling], by simpa [spelling] using hc, by rw [hp, hdepth], ?_⟩
        simp [spelling]
        omega
      · have h := ih (around.extend (.clause k c hc tail .nil)) hs
          (by simp [spelling]; omega) (by simpa using hdepth) rest
        simpa [spelling] using h

end Items

/-! ### The spans of levels -/

namespace Levels

/-- The clauses that are closed in levels, in closing order. -/
def spans : Levels → List Span
  | outermost items => items.spans 0 0
  | within around k _ _ tail =>
    around.spans ++
      tail.spans (around.spelling.length + 1 + k.text.length + 1) (around.clauses.length + 1)

theorem bounds_of_mem_spans {l : Levels} {s : Span} (hs : s ∈ l.spans) :
    s.stop ≤ l.spelling.length := by
  induction l with
  | outermost items =>
    have hitems := Items.bounds_of_mem_spans hs
    simp only [spelling]
    omega
  | within around k c hc tail ih =>
    simp only [spelling, List.length_append, List.length_cons]
    rcases List.mem_append.1 hs with hs | hs
    · have haround := ih hs
      omega
    · have htail := Items.bounds_of_mem_spans hs
      omega

theorem pairwise_spans (l : Levels) : l.spans.Pairwise Span.Before := by
  induction l with
  | outermost items => exact items.pairwise_spans 0 0
  | within around k c hc tail ih =>
    refine List.pairwise_append.2 ⟨ih, tail.pairwise_spans _ _, ?_⟩
    intro i hi j hj
    have haround := bounds_of_mem_spans hi
    have htail := Items.bounds_of_mem_spans hj
    exact ⟨by omega, .inl (by omega)⟩

theorem spans_extend (l : Levels) (items : Items) :
    (l.extend items).spans = l.spans ++ items.spans l.spelling.length l.clauses.length := by
  cases l with
  | outermost before => simp [extend, spans, Items.spans_append, spelling, clauses]
  | within around k c hc tail =>
    simp only [extend, spans, Items.spans_append, spelling, clauses, List.append_assoc,
      List.length_append, List.length_cons]
    congr 3
    omega

theorem standsIn_of_mem_spans {l : Levels} {s : Span} (hs : s ∈ l.spans) (rest : Text) :
    s.StandsIn (l.spelling ++ rest) := by
  induction l generalizing rest with
  | outermost items =>
    exact Items.standsIn_of_mem_spans (.outermost .nil) hs rfl rfl rest
  | within around k c hc tail ih =>
    rcases List.mem_append.1 hs with hs | hs
    · have h := ih hs ('\x7b' :: (k.text ++ c :: (tail.spelling ++ rest)))
      simpa [spelling] using h
    · have h := Items.standsIn_of_mem_spans (.within around k c hc .nil) hs
        (by simp [spelling, Items.spelling]; omega) rfl rest
      simpa [spelling, Items.spelling] using h

/-- What a reader sees close in levels are their spans. -/
theorem closingsOf_events (l : Levels) : closingsOf l.events = l.spans.map Span.closing := by
  induction l with
  | outermost items => exact items.closingsOf_events 0 0
  | within around k c hc tail ih => simp [events, spans, ih, Items.closingsOf_events]

end Levels

/-! ### The spans of a text -/

/-- A reader comes upon all it comes upon in a stretch that it gets to the end of. -/
theorem Reader.exists_readable (s : Reader) (t : Text) :
    ∃ u v s', t = u ++ v ∧ s.feed u = ((s.feed t).1, .ok s') := by
  induction t generalizing s with
  | nil => exact ⟨[], [], s, rfl, rfl⟩
  | cons c r ih =>
    cases hstep : s.step c with
    | error refusal => exact ⟨[], c :: r, s, rfl, by rw [feed_cons_of_error hstep, feed_nil]⟩
    | ok moved =>
      obtain ⟨u, v, s', rfl, hfeed⟩ := ih moved.1
      refine ⟨c :: u, v, s', rfl, ?_⟩
      rw [feed_cons_eq hstep hfeed, feed_cons_of_ok hstep]

/-- Where a reader stands, the clauses that it saw close are spans of levels. -/
theorem Reader.Reads.exists_levels {t : Text} {s : Reader} (h : Reads t s) :
    ∃ l : Levels, l.spelling <+: t ∧
      closingsOf (start.feed t).1 = l.spans.map Span.closing := by
  cases h with
  | plain l => exact ⟨l, List.prefix_refl _, by rw [l.feed_spelling, l.closingsOf_events]⟩
  | quoted l q body hb =>
    refine ⟨l, List.prefix_append _ _, ?_⟩
    rw [feed_append_eq l.feed_spelling, feed_cons_of_ok step_opener, feed_quoted hb]
    simp [l.closingsOf_events]
  | keyword l k hk =>
    refine ⟨l, List.prefix_append _ _, ?_⟩
    rw [feed_append_eq l.feed_spelling, feed_cons_of_ok step_brace, feed_keyword hk]
    simp [l.closingsOf_events]

/-- The clauses that close in a text are the spans of levels at its start. -/
theorem exists_levels (t : Text) :
    ∃ l : Levels, l.spelling <+: t ∧
      closingsOf (Outline.ofText t).events = l.spans.map Span.closing := by
  obtain ⟨u, v, s, rfl, hfeed⟩ := Reader.start.exists_readable t
  have hreads : Reader.Reads u s := Reader.reads_feed Reader.reads_start (by rw [hfeed])
  obtain ⟨l, hl, hclosings⟩ := hreads.exists_levels
  rw [hfeed] at hclosings
  exact ⟨l, hl.trans (List.prefix_append _ _), hclosings⟩

/-- A closed clause is the last one that closes in its items. -/
theorem Items.exists_closed (k : Keyword) {tail : Items}
    (htail : ∀ c ∈ tail.spelling.head?, Text.isBlank c = true) :
    ∃ item : Items, item.spelling = '\x7b' :: (k.text ++ (tail.spelling ++ ['\x7d'])) ∧
      ∀ p depth, ∃ inner stop, item.spans p depth = inner ++ [⟨⟨⟨p, k.text⟩, depth⟩, stop⟩] := by
  cases hs : tail.spelling with
  | nil => exact ⟨bare k nil, rfl, fun p depth => ⟨[], _, rfl⟩⟩
  | cons c t =>
    have hc : Text.isBlank c = true := htail c (by rw [hs]; rfl)
    obtain ⟨more, -, rfl⟩ := eq_plain_of_spelling_cons hc hs
    exact ⟨clause k c hc more nil, rfl, fun p depth => ⟨_, _, rfl⟩⟩

/-- Every clause that stands in a text closes in it. -/
theorem Span.StandsIn.closing_mem {s : Span} {t : Text} (h : s.StandsIn t) :
    s.closing ∈ closingsOf (Outline.ofText t).events := by
  obtain ⟨around, k, tail, rest, rfl, htail, hclosing, -⟩ := h
  obtain ⟨item, hitem, hlast⟩ := Items.exists_closed k htail
  obtain ⟨inner, stop, hspans⟩ := hlast around.spelling.length around.clauses.length
  have htext : around.spelling ++ '\x7b' :: (k.text ++ (tail.spelling ++ '\x7d' :: rest)) =
      (around.extend item).spelling ++ rest := by
    rw [Levels.spelling_extend, hitem]
    simp
  have hevents : (Outline.ofText (around.extend item).spelling).events =
      (around.extend item).events := congrArg Prod.fst (around.extend item).feed_spelling
  have hmem : s.closing ∈ closingsOf (Outline.ofText (around.extend item).spelling).events := by
    rw [hevents, Levels.closingsOf_events, Levels.spans_extend, hspans, hclosing]
    simp
  -- What follows the clause does not take the closing back.
  obtain ⟨more, hmore⟩ := Outline.events_isPrefix (around.extend item).spelling rest
  rw [htext, ← hmore, closingsOf_append]
  exact List.mem_append_left _ hmem

/-- The spans of the levels whose clauses close in a text are those that stand in the text. -/
theorem mem_spans_iff {l : Levels} {t : Text} (hl : l.spelling <+: t)
    (hclosings : closingsOf (Outline.ofText t).events = l.spans.map Span.closing) {s : Span} :
    s ∈ l.spans ↔ s.StandsIn t := by
  -- A span that stands in the text has its closing listed, and the brace tells two spans apart.
  have hstands : ∀ {s : Span}, s ∈ l.spans → s.StandsIn t := by
    intro s hs
    obtain ⟨rest, rfl⟩ := hl
    exact Levels.standsIn_of_mem_spans hs rest
  constructor
  · exact hstands
  · intro h
    have hmem := h.closing_mem
    rw [hclosings] at hmem
    obtain ⟨s', hs', hclosing⟩ := List.mem_map.1 hmem
    have hbrace : s'.brace = s.brace := by rw [Span.brace, hclosing, Span.brace]
    rwa [Span.eq_of_brace_eq (hstands hs') h hbrace] at hs'

/-- A clause that closes takes up a span of the text. -/
theorem exists_span_of_mem_closings {text : Text} {c : Closing}
    (h : c ∈ closingsOf (Outline.ofText text).events) :
    ∃ s : Span, s.StandsIn text ∧ s.closing = c := by
  obtain ⟨l, hl, hclosings⟩ := exists_levels text
  rw [hclosings] at h
  obtain ⟨s, hs, rfl⟩ := List.mem_map.1 h
  exact ⟨s, (mem_spans_iff hl hclosings).1 hs, rfl⟩

end EscapeClause
