import EscapeClause.Proofs.Denotation

/-!
# Expanding one text after another

An expandable text leaves a reader in plain text with no clause open, so whatever follows it is
read as if it stood alone, only further on. `shift` moves every index by a number of code points;
reading commutes with it (`Reader.outline_shift`), so the outline of a text after an expandable
one is its own outline, moved (`Outline.ofText_append`).

A draft of the second text can therefore be made behind the finished draft of the first
(`Draft.Behind`): what the first text has written and logged stays below it. One event keeps this
(`Draft.Behind.apply`) as long as no clause closes that is not open (`Nested`), and all events of
an outline are nested (`Reader.nested_feed`).

The main statement is `expand_append`: expanding is a homomorphism for concatenation, its errors
and the calls of handlers included.
-/

namespace EscapeClause

variable {σ : Type}

/-! ### Further on in a text -/

/-- The clause, `n` code points further on. -/
def Clause.shift (n : Nat) (k : Clause) : Clause := { k with brace := k.brace + n }

def Event.shift (n : Nat) : Event → Event
  | write c => .write c
  | enter k => .enter (k.shift n)
  | leave k depth => .leave (k.shift n) depth

def Refusal.shift (n : Nat) (r : Refusal) : Refusal := { r with position := r.position + n }

def Outline.shift (n : Nat) (o : Outline) : Outline :=
  ⟨o.events.map (Event.shift n), o.refusal.map (Refusal.shift n)⟩

def Mode.shift (n : Nat) : Mode → Mode
  | plain => .plain
  | quoted q start => .quoted q (start + n)
  | keyword brace read => .keyword (brace + n) read

def Reader.shift (n : Nat) (s : Reader) : Reader :=
  ⟨s.position + n, s.mode.shift n, s.clauses.map (Clause.shift n)⟩

def Dispatch.shift (n : Nat) (d : Dispatch) : Dispatch := { d with clause := d.clause.shift n }

def Fault.shift (n : Nat) : Fault → Fault
  | unknownKeyword k => .unknownKeyword (k.shift n)
  | inert label => .inert label

/-- The syntax error, `n` code points further on; its fragment shows the same text. -/
def SyntaxError.shift (n : Nat) (e : SyntaxError) : SyntaxError :=
  { e with position := e.position + n }

def Failure.shift (n : Nat) : Failure → Failure
  | malformed e => .malformed (e.shift n)
  | inert label => .inert label

/-! ### Fragments -/

theorem Text.slice_natCast (t : Text) (i j : Nat) : t.slice i j = (t.drop i).take (j - i) := by
  -- An index of a scan never counts from the end.
  have hclamp : ∀ k : Nat, clampIndex t.length k = min k t.length := by
    intro k
    have hk : ¬ (k : Int) < 0 := by omega
    simp [clampIndex, hk]
  rw [slice, hclamp, hclamp]
  rcases Nat.le_total i t.length with hi | hi
  · rw [Nat.min_eq_left hi, List.take_eq_take_iff, List.length_drop]
    omega
  · rw [List.drop_eq_nil_of_le hi, Nat.min_eq_right hi, List.drop_length, List.take_nil,
      List.take_nil]

/-- The fragment at an index of the text. -/
theorem SyntaxError.fragmentAt_natCast (text : Text) (p : Nat) :
    fragmentAt text p = (text.drop p).take 40 ++
      if 40 < (text.drop p).length then "...".toList else [] := by
  have hslice : text.slice p ((p : Int) + (40 : Nat)) = (text.drop p).take 40 := by
    rw [← Int.natCast_add, Text.slice_natCast, Nat.add_sub_cancel_left]
  have hmore : ((text.length : Int) - (p : Int) > 40) ↔ 40 < (text.drop p).length := by
    rw [List.length_drop]
    omega
  unfold fragmentAt fragmentLength
  exact congrArg₂ (· ++ ·) hslice (if_congr hmore rfl rfl)

/-- What a fragment shows does not depend on the text before it. -/
theorem SyntaxError.fragmentAt_append (a b : Text) (p : Nat) :
    fragmentAt (a ++ b) ((p + a.length : Nat) : Int) = fragmentAt b p := by
  rw [fragmentAt_natCast, fragmentAt_natCast, Nat.add_comm, List.drop_length_add_append]

theorem SyntaxError.ofPosition_append (cause : Malformation) (a b : Text) (p : Nat) :
    ofPosition cause (a ++ b) ((p + a.length : Nat) : Int) =
      (ofPosition cause b p).shift a.length := by
  rw [ofPosition, fragmentAt_append]
  simp [shift, ofPosition]

theorem Refusal.syntaxError_shift (r : Refusal) (a b : Text) :
    (r.shift a.length).syntaxError (a ++ b) = (r.syntaxError b).shift a.length :=
  SyntaxError.ofPosition_append r.cause a b r.position

theorem Fault.failure_shift (f : Fault) (a b : Text) :
    (f.shift a.length).failure (a ++ b) = (f.failure b).shift a.length := by
  cases f with
  | inert label => rfl
  | unknownKeyword k =>
    have herror := SyntaxError.ofPosition_append .unknownKeyword a b (k.brace + 1)
    rw [Nat.add_right_comm] at herror
    exact congrArg Failure.malformed herror

theorem Registry.fault_shift (handlers : Registry σ) (k : Clause) (n : Nat) :
    handlers.fault (k.shift n) = (handlers.fault k).shift n := by
  have hkeyword : (k.shift n).keyword = k.keyword := rfl
  rw [fault, fault, hkeyword]
  cases handlers.get? k.keyword with
  | none => rfl
  | some handler => rfl

/-! ### Reading -/

namespace Reader

def outline (s : Reader) (t : Text) : Outline :=
  ⟨(s.feed t).1, match (s.feed t).2 with
    | .error refusal => some refusal
    | .ok s' => s'.missing?⟩

theorem outline_start (t : Text) : start.outline t = Outline.ofText t := rfl

theorem outline_cons_of_error {s : Reader} {c : Char} {refusal : Refusal}
    (h : s.step c = .error refusal) (t : Text) : s.outline (c :: t) = ⟨[], some refusal⟩ := by
  rw [outline, feed_cons_of_error h]

theorem outline_cons_of_ok {s s' : Reader} {c : Char} {events : List Event}
    (h : s.step c = .ok (s', events)) (t : Text) :
    s.outline (c :: t) = ⟨events ++ (s'.outline t).events, (s'.outline t).refusal⟩ := by
  rw [outline, feed_cons_of_ok h]
  rfl

theorem outline_append {s s' : Reader} {t : Text} {events : List Event}
    (h : s.feed t = (events, .ok s')) (u : Text) :
    s.outline (t ++ u) = ⟨events ++ (s'.outline u).events, (s'.outline u).refusal⟩ := by
  rw [outline, feed_append_eq h]
  rfl

theorem missing?_shift (n : Nat) (s : Reader) :
    (s.shift n).missing? = s.missing?.map (Refusal.shift n) := by
  obtain ⟨p, mode, cs⟩ := s
  -- What is missing is reported at a brace or a quote, each of which is further on.
  cases mode with
  | plain => cases hlast : cs.getLast? <;> simp [shift, Mode.shift, missing?, hlast,
      Refusal.shift, Clause.shift]
  | quoted q start => rfl
  | keyword brace read =>
    cases read with
    | nil => rfl
    | cons c read =>
      cases hlast : cs.getLast? <;> simp [shift, Mode.shift, missing?, outermostBrace, hlast,
        Refusal.shift, Clause.shift]

/-- A step commutes with moving on. -/
theorem step_shift_of_ok {n : Nat} {s s' : Reader} {c : Char} {events : List Event}
    (h : s.step c = .ok (s', events)) :
    (s.shift n).step c = .ok (s'.shift n, events.map (Event.shift n)) := by
  have hmove := move_step s c
  rw [h] at hmove
  -- One case for each thing that a code point can do to a reader; none of them looks at the
  -- position.
  cases hmove with
  | plain hc => simp [shift, Mode.shift, Event.shift, step_plain hc, Nat.add_right_comm]
  | opener q => simp [shift, Mode.shift, Event.shift, step_opener, Nat.add_right_comm]
  | brace => simp [shift, Mode.shift, step_brace, Nat.add_right_comm]
  | leave => simp [shift, Mode.shift, Event.shift, step_leave, Nat.add_right_comm]
  | quoted hc => simp [shift, Mode.shift, Event.shift, step_quoted hc, Nat.add_right_comm]
  | closer q => simp [shift, Mode.shift, Event.shift, step_closer, Nat.add_right_comm]
  | keyword hc => simp [shift, Mode.shift, step_keyword hc, Nat.add_right_comm]
  | tail hc hread =>
    simp [shift, Mode.shift, Event.shift, Clause.shift, step_tail hc hread, Nat.add_right_comm]
  | bare hread =>
    simp [shift, Mode.shift, Event.shift, Clause.shift, step_bare hread, Nat.add_right_comm]

theorem step_shift_of_error {n : Nat} {s : Reader} {c : Char} {refusal : Refusal}
    (h : s.step c = .error refusal) : (s.shift n).step c = .error (refusal.shift n) := by
  have hmove := move_step s c
  rw [h] at hmove
  cases hmove with
  | unopened => rfl
  | missing hc => simp [shift, Mode.shift, Refusal.shift, step_missing hc]

/-- Reading further on comes upon the same, further on. -/
theorem outline_shift (n : Nat) (s : Reader) (t : Text) :
    (s.shift n).outline t = (s.outline t).shift n := by
  induction t generalizing s with
  | nil => simp [outline, Outline.shift, missing?_shift]
  | cons c r ih =>
    -- The shifted reader is refused at the same code point and moves alike at any other.
    cases hstep : s.step c with
    | error refusal =>
      rw [outline_cons_of_error hstep, outline_cons_of_error (step_shift_of_error hstep)]
      rfl
    | ok moved =>
      rw [outline_cons_of_ok hstep, outline_cons_of_ok (step_shift_of_ok hstep), ih]
      simp [Outline.shift]

end Reader

/-- The outline of a text that stands after an expandable one. -/
theorem Outline.ofText_append {a : Text} (h : (ofText a).refusal = none) (b : Text) :
    ofText (a ++ b) = ⟨(ofText a).events ++ ((ofText b).shift a.length).events,
      ((ofText b).shift a.length).refusal⟩ := by
  obtain ⟨items, rfl⟩ := Outline.refusal_eq_none_iff.1 h
  have hfeed : Reader.start.feed items.spelling =
      (items.events 0 0, .ok (Reader.start.shift items.spelling.length)) :=
    Reader.feed_spelling items 0 []
  rw [← Reader.outline_start, Reader.outline_append hfeed, Reader.outline_shift,
    Reader.outline_start, Outline.ofText_spelling]

/-! ### Nesting -/

/-- Where `n` clauses are open, no clause closes that is not open. -/
def Nested : Nat → List Event → Prop
  | _, [] => True
  | n, .write _ :: es => Nested n es
  | n, .enter _ :: es => Nested (n + 1) es
  | 0, .leave _ _ :: _ => False
  | n + 1, .leave _ _ :: es => Nested n es

/-- What a reader comes upon is nested. -/
theorem Reader.nested_feed (s : Reader) (t : Text) : Nested s.clauses.length (s.feed t).1 := by
  induction t generalizing s with
  | nil => trivial
  | cons c r ih =>
    cases hstep : s.step c with
    | error refusal =>
      rw [feed_cons_of_error hstep]
      trivial
    | ok moved =>
      obtain ⟨s', events⟩ := moved
      rw [feed_cons_of_ok hstep]
      -- What is left is nested for the clauses that are open after the code point.
      have hrest := ih s'
      have hmove := move_step s c
      rw [hstep] at hmove
      cases hmove <;> exact hrest

/-! ### Drafting behind a finished draft -/

namespace Draft

variable {handlers : Registry σ} {base d d' : Draft σ} {n : Nat}

/-- An event leaves as many levels around a draft as there are clauses open after it. -/
theorem nested_of_apply_ok {e : Event} {es : List Event} (h : d.apply handlers e = .ok d')
    (hnested : Nested d.outer.length (e :: es)) : Nested d'.outer.length es := by
  cases e with
  | write c =>
    cases h
    exact hnested
  | enter k =>
    cases h
    exact hnested
  | leave k depth =>
    -- A clause closes only where one is open, so there is a level to go back to.
    obtain ⟨first, rest, houter⟩ : ∃ first rest, d.outer = first :: rest := by
      cases houter : d.outer with
      | nil =>
        rw [houter] at hnested
        exact hnested.elim
      | cons first rest => exact ⟨first, rest, rfl⟩
    obtain ⟨answer, -, rfl⟩ := exists_answer_of_apply_leave h
    rw [houter] at hnested
    have hrest : Nested rest.length es := hnested
    simpa [splice, houter] using hrest

/-- The second draft is the first one behind a finished draft: below its outermost level stands
what that one has written, and below its log the log of that one. -/
structure Behind (base : Draft σ) (n : Nat) (d d' : Draft σ) : Prop where
  levels : ∃ inner outermost, d.written :: d.outer = inner ++ [outermost] ∧
    d'.written :: d'.outer = inner ++ [outermost ++ base.written]
  log : d'.log = d.log.map (Dispatch.shift n) ++ base.log
  state : d'.state = d.state

/-- Two ways to go along events end together, one behind a finished draft. -/
inductive EndBehind (base : Draft σ) (n : Nat) :
    Except (Fault × Draft σ) (Draft σ) → Except (Fault × Draft σ) (Draft σ) → Prop
  | ok {d d' : Draft σ} (h : Behind base n d d') : EndBehind base n (.ok d) (.ok d')
  | error {d d' : Draft σ} (f : Fault) (h : Behind base n d d') :
    EndBehind base n (.error (f, d)) (.error (f.shift n, d'))

namespace Behind

theorem write (h : Behind base n d d') (c : Char) :
    Behind base n { d with written := c :: d.written } { d' with written := c :: d'.written } where
  levels := by
    obtain ⟨inner, outermost, hd, hd'⟩ := h.levels
    -- The innermost level is the outermost one as well, or it lies above.
    cases inner with
    | nil =>
      obtain ⟨hw, ho⟩ := List.cons.inj hd
      obtain ⟨hw', ho'⟩ := List.cons.inj hd'
      exact ⟨[], c :: outermost, by simp [hw, ho], by simp [hw', ho']⟩
    | cons first inner =>
      obtain ⟨hw, ho⟩ := List.cons.inj hd
      obtain ⟨hw', ho'⟩ := List.cons.inj hd'
      exact ⟨(c :: first) :: inner, outermost, by simp [hw, ho], by simp [hw', ho']⟩
  log := h.log
  state := h.state

theorem enter (h : Behind base n d d') :
    Behind base n { d with written := [], outer := d.written :: d.outer }
      { d' with written := [], outer := d'.written :: d'.outer } where
  levels := by
    obtain ⟨inner, outermost, hd, hd'⟩ := h.levels
    exact ⟨[] :: inner, outermost, congrArg _ hd, congrArg _ hd'⟩
  log := h.log
  state := h.state

/-- Inside a clause the level that is being written is the same. -/
theorem args_eq (h : Behind base n d d') (hopen : d.outer ≠ []) : d'.args = d.args := by
  obtain ⟨inner, outermost, hd, hd'⟩ := h.levels
  cases inner with
  | nil => exact absurd (List.cons.inj hd).2 hopen
  | cons first inner =>
    have hw : d'.written = d.written := by rw [(List.cons.inj hd').1, (List.cons.inj hd).1]
    rw [args, args, text, text, hw]

/-- Outside all clauses the finished text stands before what is written. -/
theorem text_eq (h : Behind base n d d') (houter : d.outer = []) :
    d'.text = base.text ++ d.text := by
  obtain ⟨inner, outermost, hd, hd'⟩ := h.levels
  rw [houter] at hd
  cases inner with
  | nil =>
    have hw : d.written = outermost := (List.cons.inj hd).1
    have hw' : d'.written = outermost ++ base.written := (List.cons.inj hd').1
    simp [text, hw, hw']
  | cons first inner => simp at hd

theorem splice (h : Behind base n d d') (hopen : d.outer ≠ []) (k : Clause) (depth : Nat)
    (replacement : Text) (state : σ) :
    Behind base n (d.splice k depth replacement state)
      (d'.splice (k.shift n) depth replacement state) where
  levels := by
    obtain ⟨inner, outermost, hd, hd'⟩ := h.levels
    cases inner with
    | nil => exact absurd (List.cons.inj hd).2 hopen
    | cons first inner =>
      have ho := (List.cons.inj hd).2
      have ho' := (List.cons.inj hd').2
      cases inner with
      -- The answer goes to the outermost level, which is the one that differs.
      | nil =>
        refine ⟨[], replacement.reverse ++ outermost, ?_, ?_⟩
        · simp [Draft.splice, ho]
        · simp [Draft.splice, ho']
      | cons next inner =>
        refine ⟨(replacement.reverse ++ next) :: inner, outermost, ?_, ?_⟩
        · simp [Draft.splice, ho]
        · simp [Draft.splice, ho']
  log := by
    have hargs := h.args_eq hopen
    simp [Draft.splice, h.log, hargs, Dispatch.shift]
  state := rfl

/-- One event keeps a draft behind the finished one. -/
theorem apply (handlers : Registry σ) (h : Behind base n d d') {e : Event} {es : List Event}
    (hnested : Nested d.outer.length (e :: es)) :
    EndBehind base n (d.apply handlers e) (d'.apply handlers (e.shift n)) := by
  cases e with
  | write c => exact .ok (h.write c)
  | enter k => exact .ok h.enter
  | leave k depth =>
    have hopen : d.outer ≠ [] := by
      intro hnil
      rw [hnil] at hnested
      exact hnested
    -- The handler is asked the same in both drafts, so it answers the same or not at all.
    have hasked : handlers.answer? ⟨(k.shift n).keyword, d'.args⟩ d'.state =
        handlers.answer? ⟨k.keyword, d.args⟩ d.state := by
      rw [h.args_eq hopen, h.state]
      rfl
    cases hanswer : handlers.answer? ⟨k.keyword, d.args⟩ d.state with
    | none =>
      rw [Event.shift, apply_leave_of_unanswered hanswer,
        apply_leave_of_unanswered (hasked.trans hanswer), Registry.fault_shift]
      exact .error _ h
    | some answer =>
      rw [Event.shift, apply_leave_of_some hanswer,
        apply_leave_of_some (hasked.trans hanswer)]
      exact .ok (h.splice hopen k depth answer.1 answer.2)

/-- All events keep a draft behind the finished one. -/
theorem applyAll (handlers : Registry σ) (h : Behind base n d d') {es : List Event}
    (hnested : Nested d.outer.length es) :
    EndBehind base n (d.applyAll handlers es)
      (d'.applyAll handlers (es.map (Event.shift n))) := by
  induction es generalizing d d' with
  | nil => exact .ok h
  | cons e es ih =>
    -- Both drafts move, or both end with the same fault; the induction is on the events.
    have hend := h.apply handlers hnested
    rw [List.map_cons, applyAll_cons, applyAll_cons]
    cases happly : d.apply handlers e with
    | ok moved =>
      rw [happly] at hend
      have hrest := nested_of_apply_ok happly hnested
      generalize d'.apply handlers (e.shift n) = behind at hend
      cases hend with
      | ok hmoved => exact ih hmoved hrest
    | error f =>
      rw [happly] at hend
      generalize d'.apply handlers (e.shift n) = behind at hend
      cases hend with
      | error f hmoved => exact .error f hmoved

end Behind

end Draft

/-! ### Expanding -/

/-- The draft of an expandable text, and what its expansion tells of it. -/
theorem exists_draft_of_expand_ok {handlers : Registry σ} {text out : Text} {state : σ}
    (h : (expand handlers text state).result = .ok out) :
    ∃ d, (Draft.start state).applyAll handlers (Outline.ofText text).events = .ok d ∧
      (Outline.ofText text).refusal = none ∧ d.written = out.reverse ∧ d.outer = [] ∧
      expand handlers text state = ⟨.ok out, d.log.reverse, d.state⟩ := by
  -- An expanded text is a sequence of items, and its draft is the start extended by their value.
  obtain ⟨items, rfl, w, hvalue, rfl⟩ := expand_ok_iff_value.1 h
  have hreal := items.realizes_events handlers 0 0 (.start state)
  rw [show (Draft.start state).state = state from rfl, hvalue] at hreal
  obtain ⟨d, hd, hext⟩ := hreal
  have hwritten : d.written = w.text.reverse := by simpa [Draft.start] using hext.written
  refine ⟨d, ?_, ?_, hwritten, hext.outer, ?_⟩
  · rw [Outline.ofText_spelling]
    exact hd
  · rw [Outline.ofText_spelling]
  · simp only [expand, Outline.ofText_spelling, hd]
    rw [Draft.text, hwritten, List.reverse_reverse]

/-- What came of a text after an expandable one is what came of it alone, with the state that the
first one left: the results are put together, an error is found further on and shows the same
fragment, and the calls of handlers come after those of the first text. -/
theorem expand_append_eq {handlers : Registry σ} {a u : Text} {state : σ}
    (h : (expand handlers a state).result = .ok u) (b : Text) :
    expand handlers (a ++ b) state =
      let first := expand handlers a state
      let second := expand handlers b first.state
      ⟨match second.result with
        | .ok v => .ok (u ++ v)
        | .error f => .error (f.shift a.length),
        first.dispatches ++ second.dispatches.map (Dispatch.shift a.length), second.state⟩ := by
  obtain ⟨base, hbase, hrefusal, hwritten, houter, hfirst⟩ := exists_draft_of_expand_ok h
  have hstart : Draft.Behind base a.length (.start base.state) base :=
    ⟨⟨[], [], rfl, by simp [houter]⟩, rfl, rfl⟩
  have hnested : Nested 0 (Outline.ofText b).events := Reader.nested_feed .start b
  have hend := hstart.applyAll handlers hnested
  have hwhole : (Draft.start state).applyAll handlers (Outline.ofText (a ++ b)).events =
      base.applyAll handlers ((Outline.ofText b).events.map (Event.shift a.length)) := by
    rw [Outline.ofText_append hrefusal, Draft.applyAll_append, hbase]
    rfl
  have hverdict : (Outline.ofText (a ++ b)).refusal =
      (Outline.ofText b).refusal.map (Refusal.shift a.length) := by
    rw [Outline.ofText_append hrefusal]
    rfl
  have hout : base.text = u := by rw [Draft.text, hwritten, List.reverse_reverse]
  simp only [hfirst]
  -- The second text alone ends in a fault, with a verdict or well, and behind the first one alike.
  cases halone : (Draft.start base.state).applyAll handlers (Outline.ofText b).events with
  | error fd =>
    obtain ⟨f, d⟩ := fd
    rw [halone] at hend
    simp only [expand, hwhole, halone]
    generalize base.applyAll handlers ((Outline.ofText b).events.map (Event.shift a.length)) =
      behind at hend
    cases hend with
    | error f hd => simp [Fault.failure_shift, hd.log, hd.state]
  | ok d =>
    rw [halone] at hend
    simp only [expand, hwhole, hverdict, halone]
    generalize base.applyAll handlers ((Outline.ofText b).events.map (Event.shift a.length)) =
      behind at hend
    cases hend with
    | ok hd =>
      cases hverdict' : (Outline.ofText b).refusal with
      | some refusal => simp [Refusal.syntaxError_shift, hd.log, hd.state, Failure.shift]
      | none =>
        have hb : (expand handlers b base.state).result = .ok d.text := by
          simp [expand, halone, hverdict']
        -- Only because it is expandable has the second text no level left open.
        obtain ⟨d₂, hd₂, -, -, houter₂, -⟩ := exists_draft_of_expand_ok hb
        rw [halone] at hd₂
        cases hd₂
        simp [hd.text_eq houter₂, hout, hd.log, hd.state]

/-- Expanding is a homomorphism for concatenation. After an expandable text `a` the text `b` is
expanded to what it is expanded to alone, with the state that `a` left; if it is malformed, the
error has the same cause, fragment and message and is `a.length` code points further on; and the
calls of handlers are those of `a` and then those of `b`, each clause of `b` as much further on. -/
theorem expand_append (handlers : Registry σ) {a u : Text} {state : σ}
    (h : (expand handlers a state).result = .ok u) (b : Text) :
    let first := expand handlers a state
    let second := expand handlers b first.state
    let whole := expand handlers (a ++ b) state
    (∀ v, second.result = .ok v → whole.result = .ok (u ++ v)) ∧
    (∀ e, second.result = .error (.malformed e) →
      ∃ e', whole.result = .error (.malformed e') ∧ e'.cause = e.cause ∧
        e'.position = e.position + a.length ∧ e'.fragment = e.fragment ∧
        e'.message = e.message) ∧
    (∀ label, second.result = .error (.inert label) → whole.result = .error (.inert label)) ∧
    whole.dispatches = first.dispatches ++ second.dispatches.map (Dispatch.shift a.length) ∧
    whole.state = second.state := by
  intro first second whole
  have hwhole : whole = _ := expand_append_eq h b
  -- Every part is read off the equation for the whole expansion.
  refine ⟨?_, ?_, ?_, ?_, ?_⟩
  · intro v hv
    have hsecond : (expand handlers b (expand handlers a state).state).result = .ok v := hv
    rw [hwhole]
    simp only [hsecond]
  · intro e he
    have hsecond : (expand handlers b (expand handlers a state).state).result =
        .error (.malformed e) := he
    refine ⟨e.shift a.length, ?_, rfl, rfl, rfl, rfl⟩
    rw [hwhole]
    simp only [hsecond]
    rfl
  · intro label hlabel
    have hsecond : (expand handlers b (expand handlers a state).state).result =
        .error (.inert label) := hlabel
    rw [hwhole]
    simp only [hsecond]
    rfl
  · rw [hwhole]
  · rw [hwhole]

/-- The second text is never closed: its error and its call are found six code points further
on. -/
theorem expand_append_unterminated :
    (expandStandard "\x7bd 1\x7d ".toList).result = .ok "1 ".toList ∧
      ∃ e, (expandStandard "\x7bd 1\x7d \x7blimit \x7bd 2\x7d".toList).result =
          .error (.malformed e) ∧
        e.cause = .unterminatedClause ∧ e.position = 6 ∧
        e.fragment = "\x7blimit \x7bd 2\x7d".toList ∧
        (expandStandard "\x7bd 1\x7d \x7blimit \x7bd 2\x7d".toList).dispatches =
          [⟨⟨0, "d".toList⟩, 0, "1".toList, "1".toList⟩,
            ⟨⟨13, "d".toList⟩, 1, "2".toList, "2".toList⟩] := by
  have hfirst : (expandStandard "\x7bd 1\x7d ".toList).result = .ok "1 ".toList := by rfl
  obtain ⟨-, herror, -, hdispatches, -⟩ :=
    expand_append Registry.standard hfirst "\x7blimit \x7bd 2\x7d".toList
  obtain ⟨e, hresult, hcause, hposition, hfragment, -⟩ :=
    herror (.ofPosition .unterminatedClause "\x7blimit \x7bd 2\x7d".toList 0) (by rfl)
  exact ⟨hfirst, e, hresult, hcause, hposition, hfragment, hdispatches⟩

end EscapeClause
