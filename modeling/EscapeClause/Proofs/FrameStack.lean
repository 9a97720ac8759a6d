import EscapeClause.Proofs.FrameScan

/-!
# The stack of a scan

A scan and a reader go through a text side by side. After a keyword the reader has not entered the
clause yet of which the scan has pushed the frame, and the next code point makes up for it
(`Settles`). So what a round reads leads the reader and its draft to where the round leads the scan
(`Scan.exists_leads`), and the scan ends with what `expand` returns (`Scan.Reached.round_cases`).

The main result is `Scan.stack_invariant`: what holds of the stack whenever a round begins.
-/

namespace EscapeClause

variable {σ : Type}

namespace Scan

/-! ### Scans and readers -/

/-- A reader that stands where the scan stands, outside keywords. -/
def reader (s : Scan σ) : Reader := ⟨s.position, .plain, openClauses s.frames⟩

def draft (s : Scan σ) : Draft σ :=
  ⟨(s.frames.head?.map Frame.written).getD [], s.frames.tail.map Frame.written, s.log, s.state⟩

end Scan

/-- What comes of expanding a text of which `rest` is left. -/
def expandFrom (handlers : Registry σ) (text rest : Text) (r : Reader) (d : Draft σ) :
    Expansion σ :=
  match d.applyAll handlers (r.feed rest).1 with
  | .error (fault, d') => ⟨.error (fault.failure text), d'.log.reverse, d'.state⟩
  | .ok d' =>
    let refusal := match (r.feed rest).2 with
      | .error refusal => some refusal
      | .ok r' => r'.missing?
    let result : Except Failure Text := match refusal with
      | some refusal => .error (.malformed (refusal.syntaxError text))
      | none => .ok d'.text
    ⟨result, d'.log.reverse, d'.state⟩

theorem expandFrom_start (handlers : Registry σ) (text : Text) (state : σ) :
    expandFrom handlers text text .start (.start state) = expand handlers text state := rfl

theorem expandFrom_nil (handlers : Registry σ) (text : Text) (r : Reader) (d : Draft σ) :
    expandFrom handlers text [] r d =
      ⟨match r.missing? with
        | some refusal => .error (.malformed (refusal.syntaxError text))
        | none => .ok d.text, d.log.reverse, d.state⟩ := rfl

/-- Reading `t` leads from a reader and a draft to others. -/
def Leads (handlers : Registry σ) (t : Text) (r : Reader) (d : Draft σ) (r' : Reader)
    (d' : Draft σ) : Prop :=
  ∃ events, r.feed t = (events, .ok r') ∧ d.applyAll handlers events = .ok d'

section Leads

variable {handlers : Registry σ} {t u : Text} {r r' r'' : Reader} {d d' d'' : Draft σ}

theorem Leads.trans (h : Leads handlers t r d r' d') (h' : Leads handlers u r' d' r'' d'') :
    Leads handlers (t ++ u) r d r'' d'' := by
  obtain ⟨events, hfeed, happly⟩ := h
  obtain ⟨events', hfeed', happly'⟩ := h'
  refine ⟨events ++ events', ?_, ?_⟩
  · rw [Reader.feed_append_eq hfeed, hfeed']
  · rw [Draft.applyAll_append, happly]
    exact happly'

theorem Leads.expandFrom_eq (h : Leads handlers t r d r' d') (text u : Text) :
    expandFrom handlers text (t ++ u) r d = expandFrom handlers text u r' d' := by
  obtain ⟨events, hfeed, happly⟩ := h
  have hboth : d.applyAll handlers (r.feed (t ++ u)).1 = d'.applyAll handlers (r'.feed u).1 := by
    rw [Reader.feed_append_eq hfeed, Draft.applyAll_append, happly]
    rfl
  rw [expandFrom, expandFrom, hboth, Reader.feed_append_eq hfeed]

/-- One code point that a reader comes upon events with. -/
theorem leads_singleton {c : Char} {events : List Event} (hstep : r.step c = .ok (r', events))
    (happly : d.applyAll handlers events = .ok d') : Leads handlers [c] r d r' d' := by
  refine ⟨events, ?_, happly⟩
  rw [Reader.feed_cons_of_ok hstep, Reader.feed_nil, List.append_nil]

theorem leads_brace {p : Nat} {cs : List Clause} :
    Leads handlers ['\x7b'] ⟨p, .plain, cs⟩ d ⟨p + 1, .keyword p [], cs⟩ d :=
  leads_singleton Reader.step_brace rfl

/-- Reading into a quoted region. -/
theorem leads_quoted {p : Nat} {cs : List Clause} {q : Quote} {body : Text}
    (hbody : q.closer ∉ body) :
    Leads handlers (q.opener :: body) ⟨p, .plain, cs⟩ d ⟨p + 1 + body.length, .quoted q p, cs⟩
      { d with written := (q.opener :: body).reverse ++ d.written } := by
  refine ⟨(q.opener :: body).map .write, ?_, d.applyAll_map_write _⟩
  rw [Reader.feed_cons_eq Reader.step_opener (Reader.feed_quoted hbody)]
  rfl

end Leads

/-- The end of a keyword: whatever `rest` is, the first reader and draft do with it what the second
ones do. -/
inductive Settles (rest : Text) : Reader → Draft σ → Reader → Draft σ → Prop
  | plain {p : Nat} {cs : List Clause} {d : Draft σ} :
      Settles rest ⟨p, .plain, cs⟩ d ⟨p, .plain, cs⟩ d
  | keyword {p b : Nat} {read : Text} {cs : List Clause} {d : Draft σ} (hread : read ≠ [])
      (hend : ∀ c ∈ rest.head?, isKeywordChar c = false) :
      Settles rest ⟨p, .keyword b read, cs⟩ d ⟨p, .plain, ⟨b, read.reverse⟩ :: cs⟩
        { d with written := [], outer := d.written :: d.outer }

section Settles

variable {handlers : Registry σ} {text rest : Text} {r r₀ : Reader} {d d₀ : Draft σ}

theorem Settles.expandFrom_eq (h : Settles rest r d r₀ d₀) :
    expandFrom handlers text rest r d = expandFrom handlers text rest r₀ d₀ := by
  cases h with
  | plain => rfl
  | @keyword p b read cs d hread hend =>
    cases rest with
    -- The text ends with the keyword; both readers miss the outermost closing brace.
    | nil =>
      obtain ⟨c, read', rfl⟩ := List.exists_cons_of_ne_nil hread
      rw [expandFrom_nil, expandFrom_nil]
      cases cs with
      | nil => rfl
      | cons k cs => simp [Reader.missing?, Reader.outermostBrace, List.getLast?_cons]
    | cons c t =>
      -- Otherwise what follows ends the keyword, and the clause is entered.
      have hentered (es : List Event) :
          d.applyAll handlers (.enter ⟨b, read.reverse⟩ :: es) =
            { d with written := [], outer := d.written :: d.outer }.applyAll handlers es := rfl
      rw [expandFrom, expandFrom, Reader.feed_after_keyword hread (hend c rfl), hentered]

/-- The two read on alike. -/
theorem Settles.leads {r' : Reader} {d' : Draft σ} {t : Text} (h : Settles rest r d r₀ d₀)
    (hlead : Leads handlers t r₀ d₀ r' d') (hstart : t <+: rest) (ht : t ≠ []) :
    Leads handlers t r d r' d' := by
  cases h with
  | plain => exact hlead
  | @keyword p b read cs d hread hend =>
    obtain ⟨c, t, rfl⟩ := List.exists_cons_of_ne_nil ht
    obtain ⟨u, rfl⟩ := hstart
    obtain ⟨events, hfeed, happly⟩ := hlead
    -- The first code point of `t` ends the keyword, which adds the event of entering.
    refine ⟨.enter ⟨b, read.reverse⟩ :: events, ?_, happly⟩
    rw [Reader.feed_after_keyword hread (hend c rfl), hfeed]

end Settles

namespace Scan

section Rounds

variable {handlers : Registry σ} {text : Text} {state : σ} {s s' : Scan σ}

/-- After writing the scan stands where a reader and a draft do. -/
theorem settles_write {rest t : Text} {p : Nat} {top : Frame} {below : List Frame}
    {log : List Dispatch} :
    Settles rest ⟨p, .plain, openClauses (top :: below)⟩
      ⟨t ++ top.written, below.map Frame.written, log, state⟩
      (reader ⟨p, { top with written := t ++ top.written } :: below, log, state⟩)
      (draft ⟨p, { top with written := t ++ top.written } :: below, log, state⟩) := by
  have hreader : reader ⟨p, { top with written := t ++ top.written } :: below, log, state⟩ =
      ⟨p, .plain, openClauses (top :: below)⟩ :=
    congrArg (Reader.mk p .plain) (openClauses_write top below _)
  rw [hreader]
  exact .plain

/-- A reader leaves the clause of the frame that is popped. -/
theorem step_close (p : Nat) (top parent : Frame) (below : List Frame) :
    (Reader.mk p .plain (openClauses (top :: parent :: below))).step '\x7d' =
      .ok (⟨p + 1, .plain, openClauses (parent :: below)⟩, [.leave top.clause below.length]) := by
  rw [openClauses_cons top (List.cons_ne_nil _ _), Reader.step_leave, openClauses,
    List.length_map, List.length_dropLast]
  rfl

/-- A round that goes on reads a part of the text, and a reader and a draft come out of it as the
scan does. -/
theorem exists_leads (h : Stacked text s.position s.frames)
    (hround : s.round handlers text = .next s') :
    ∃ t rest r d, t ≠ [] ∧ text.drop s.position = t ++ rest ∧
      s'.position = s.position + t.length ∧ Leads handlers t s.reader s.draft r d ∧
      Settles rest r d s'.reader s'.draft := by
  have hturn := turn_round handlers h
  rw [hround] at hturn
  -- What a round reads in one jump the reader reads code point by code point.
  cases hturn with
  | @plain p top below log state c rest hrest hc =>
    exact ⟨[c], rest, _, _, List.cons_ne_nil _ _, hrest, rfl,
      leads_singleton (Reader.step_plain hc) rfl, settles_write (t := [c])⟩
  | @quoted p top below log state q body rest hrest hbody =>
    have hread : text.drop p = (q.opener :: body ++ [q.closer]) ++ rest := by
      rw [hrest, List.append_assoc, List.cons_append, List.singleton_append]
    have hlength : (q.opener :: body ++ [q.closer]).length = body.length + 2 := by simp
    have hposition : p + 1 + body.length + 1 = p + (body.length + 2) := by omega
    refine ⟨_, rest, _, _, List.append_ne_nil_of_right_ne_nil _ (List.cons_ne_nil _ _), hread,
      congrArg (p + ·) hlength.symm,
      (leads_quoted hbody).trans (leads_singleton Reader.step_closer rfl), ?_⟩
    rw [hposition, List.reverse_append]
    exact settles_write (t := q.closer :: (q.opener :: body).reverse)
  | @opened p frames log state keyword rest hrest hkeyword hchars hend =>
    obtain ⟨top, below, rfl⟩ := List.exists_cons_of_ne_nil h.ne_nil
    -- The keyword is read in full, but the clause is entered only by what follows.
    have hfeed : (Reader.mk (p + 1) (.keyword p []) (openClauses (top :: below))).feed keyword =
        ([], .ok ⟨p + (keyword.length + 1), .keyword p keyword.reverse,
          openClauses (top :: below)⟩) := by
      rw [Reader.feed_keyword hchars, List.append_nil, Nat.add_assoc, Nat.add_comm 1]
    have hreader : reader ⟨p + (keyword.length + 1), ⟨p, keyword, []⟩ :: top :: below, log, state⟩ =
        ⟨p + (keyword.length + 1), .plain,
          ⟨p, keyword.reverse.reverse⟩ :: openClauses (top :: below)⟩ := by
      rw [List.reverse_reverse]
      rfl
    refine ⟨'\x7b' :: keyword, rest, _, _, List.cons_ne_nil _ _, hrest, rfl,
      leads_brace.trans ⟨[], hfeed, rfl⟩, ?_⟩
    rw [hreader]
    exact .keyword (mt List.reverse_eq_nil_iff.1 hkeyword) hend
  | @closed p top parent below log state rest answer hrest hanswer =>
    have happly : (draft ⟨p, top :: parent :: below, log, state⟩).applyAll handlers
        [.leave top.clause below.length] = .ok _ :=
      (Draft.applyAll_singleton _ _).trans (Draft.apply_leave_of_some hanswer)
    exact ⟨['\x7d'], rest, _, _, List.cons_ne_nil _ _, hrest, rfl,
      leads_singleton (step_close p top parent below) happly, settles_write⟩

/-- A round that ends the scan ends it as the reader and the draft end. -/
theorem ended_eq {e : Expansion σ} (h : Stacked text s.position s.frames)
    (hround : s.round handlers text = .ended e) :
    e = expandFrom handlers text (text.drop s.position) s.reader s.draft := by
  have hturn := turn_round handlers h
  rw [hround] at hturn
  -- A round that ends leaves the reader to find the same malformation in what is left.
  cases hturn with
  | @unterminatedQuote _ q body hrest hbody =>
    have hlead : Leads handlers (q.opener :: body) s.reader s.draft _ _ := leads_quoted hbody
    rw [hrest, ← List.append_nil (q.opener :: body), hlead.expandFrom_eq]
    rfl
  | lastBrace hrest =>
    rw [hrest]
    rfl
  | @missingKeyword _ c rest hrest hc =>
    have hlead : Leads handlers ['\x7b'] s.reader s.draft _ _ := leads_brace
    rw [hrest, ← List.singleton_append, hlead.expandFrom_eq, expandFrom,
      Reader.feed_cons_of_error (Reader.step_missing hc)]
    rfl
  | @unanswered p top parent below log state rest hrest hanswer =>
    have hfault : (draft ⟨p, top :: parent :: below, log, state⟩).apply handlers
        (.leave top.clause below.length) = .error _ := Draft.apply_leave_of_unanswered hanswer
    rw [hrest, expandFrom, reader, Reader.feed_cons_of_ok (step_close p top parent below),
      List.singleton_append, Draft.applyAll_cons_of_error hfault]
    rfl
  | unopened hrest =>
    rw [hrest]
    rfl
  | finished hrest =>
    rw [hrest]
    rfl
  | unclosed hrest hk =>
    rw [hrest, expandFrom_nil, reader, Reader.missing?, hk]
    rfl

/-! ### Rounds that are reached -/

/-- What has been read leads a reader and a draft to where the scan stands. -/
def Follows (handlers : Registry σ) (text : Text) (state : σ) (s : Scan σ) : Prop :=
  ∃ r d, Leads handlers (text.take s.position) .start (.start state) r d ∧
    Settles (text.drop s.position) r d s.reader s.draft

theorem Follows.next (h : Follows handlers text state s)
    (hstacked : Stacked text s.position s.frames) (hround : s.round handlers text = .next s') :
    Follows handlers text state s' ∧ s.position < s'.position ∧ s'.position ≤ text.length := by
  obtain ⟨r, d, hlead, hsettles⟩ := h
  obtain ⟨t, rest, r', d', ht, hrest, hposition, hlead', hsettles'⟩ := exists_leads hstacked hround
  have hlength := congrArg List.length hrest
  rw [List.length_drop, List.length_append] at hlength
  have hpos := List.length_pos_iff.2 ht
  -- The text read so far grows by exactly what the round has read.
  have htake : text.take s'.position = text.take s.position ++ t := by
    rw [hposition, List.take_add, hrest, List.take_left]
  have hdrop : text.drop s'.position = rest := by
    rw [hposition, ← List.drop_drop, hrest, List.drop_left]
  refine ⟨⟨r', d', ?_, hdrop.symm ▸ hsettles'⟩, by omega, by omega⟩
  rw [htake]
  exact hlead.trans (hsettles.leads hlead' (hrest ▸ List.prefix_append t rest) ht)

theorem Follows.expandFrom_eq (h : Follows handlers text state s) :
    expandFrom handlers text (text.drop s.position) s.reader s.draft =
      expand handlers text state := by
  obtain ⟨r, d, hlead, hsettles⟩ := h
  rw [← expandFrom_start, ← hsettles.expandFrom_eq, ← hlead.expandFrom_eq,
    List.take_append_drop]

/-- What holds whenever a round begins. -/
theorem Reached.invariant (h : Reached handlers text state s) :
    Stacked text s.position s.frames ∧ Follows handlers text state s ∧
      s.position ≤ text.length := by
  induction h with
  | start => exact ⟨.bottom, ⟨_, _, ⟨[], rfl, rfl⟩, .plain⟩, Nat.zero_le _⟩
  | next _ hround ih =>
    obtain ⟨hstacked, hfollows, -⟩ := ih
    obtain ⟨hfollows', -, hle⟩ := hfollows.next hstacked hround
    exact ⟨hstacked.next hround, hfollows', hle⟩

/-- A round moves on or ends with what `expand` returns. -/
theorem Reached.round_cases (h : Reached handlers text state s) :
    (∃ s', s.round handlers text = .next s' ∧ s.position < s'.position) ∨
      s.round handlers text = .ended (expand handlers text state) := by
  obtain ⟨hstacked, hfollows, -⟩ := h.invariant
  cases hround : s.round handlers text with
  | next s' => exact .inl ⟨s', rfl, (hfollows.next hstacked hround).2.1⟩
  | ended e => exact .inr (by rw [ended_eq hstacked hround, hfollows.expandFrom_eq])
  -- No round on a stack in order asks for a frame that is not there.
  | noFrame =>
    have hturn := turn_round handlers hstacked
    rw [hround] at hturn
    cases hturn

/-- From every round that is reached the end is reached. -/
theorem Reached.exists_ended (h : Reached handlers text state s) :
    ∃ s', Reached handlers text state s' ∧
      s'.round handlers text = .ended (expand handlers text state) := by
  -- Each round leaves less of the text.
  induction hn : text.length - s.position using Nat.strongRecOn generalizing s with
  | _ n ih =>
    rcases h.round_cases with ⟨s', hround, hlt⟩ | hended
    · have hle := (h.next hround).invariant.2.2
      exact ih _ (by omega) (h.next hround) rfl
    · exact ⟨s, h, hended⟩

end Rounds

end Scan

/-- The clauses that a reader has entered or whose keyword it reads, innermost first. -/
def Reader.openClauses (r : Reader) : List Clause :=
  match r.mode with
  | .keyword brace read => ⟨brace, read.reverse⟩ :: r.clauses
  | _ => r.clauses

theorem Settles.openClauses_eq {rest : Text} {r r₀ : Reader} {d d₀ : Draft σ}
    (h : Settles rest r d r₀ d₀) : r.openClauses = r₀.clauses := by
  cases h <;> rfl

namespace Scan

/-- Whenever a round begins, the stack is in order and holds the clauses that a reader of the same
part of the text has open. The round moves on or ends with what `expand` returns, so it never
misses a frame, and it does end. -/
theorem stack_invariant (handlers : Registry σ) (text : Text) (state : σ) :
    (∀ s, Reached handlers text state s →
      Sound text s ∧
      (∃ r, (Reader.start.feed (text.take s.position)).2 = .ok r ∧
        r.openClauses = openClauses s.frames) ∧
      ((∃ s', s.round handlers text = .next s' ∧ s.position < s'.position) ∨
        s.round handlers text = .ended (expand handlers text state))) ∧
    ∃ s, Reached handlers text state s ∧
      s.round handlers text = .ended (expand handlers text state) := by
  refine ⟨fun s h => ?_, Reached.start.exists_ended⟩
  obtain ⟨hstacked, ⟨r, d, ⟨events, hfeed, -⟩, hsettles⟩, hle⟩ := h.invariant
  exact ⟨hstacked.sound hle, ⟨r, by rw [hfeed], hsettles.openClauses_eq⟩, h.round_cases⟩

/-- Two clauses are open after five rounds, the third of which passed a quoted brace. -/
theorem stack_invariant_nested :
    let text := "\x7bfn '\x7d' \x7bts x\x7d".toList
    ∃ s, Reached Registry.standard text () s ∧ s.frames.map Frame.brace = [8, 0, -1] ∧
      Sound text s := by
  intro text
  have h : Reached Registry.standard text () _ :=
    .next (.next (.next (.next (.next .start rfl) rfl) rfl) rfl) rfl
  exact ⟨_, h, rfl, ((stack_invariant Registry.standard text ()).1 _ h).1⟩

end Scan

end EscapeClause
