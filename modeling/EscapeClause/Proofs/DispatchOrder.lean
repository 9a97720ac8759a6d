import EscapeClause.Proofs.Spans

/-!
# The order in which handlers are called

A handler is called when its clause closes, so the calls of an expansion follow the order in which
clauses close in the text, up to the first one that is not answered. `Draft.reached` is the draft
at which an expansion ends, whether at the end of the text or at a fault; what it has logged is
what was logged before a failure too. A longer text only goes on from there
(`Draft.log_reached_append`).

The main statement is `dispatches_close_inside_out`. It ties the calls to the stretches that closed
clauses take up in the text (`Span.StandsIn`): inner clauses come before the ones around them, left
ones before right ones, each once, and a prefix of the text makes a prefix of the calls.
-/

namespace EscapeClause

variable {σ : Type}

/-! ### How far a draft gets -/

def Registry.canAnswer (handlers : Registry σ) (c : Closing) : Bool :=
  (handlers.get? c.clause.keyword).any Handler.isUsable

theorem Registry.canAnswer_iff {handlers : Registry σ} {c : Closing} :
    handlers.canAnswer c = true ↔ handlers.Answers c.clause.keyword := by
  rw [canAnswer, Answers]
  cases handlers.get? c.clause.keyword <;> simp

namespace Draft

variable {handlers : Registry σ}

/-- The draft at which going along events ends, at the last event or at a fault. -/
def reached (handlers : Registry σ) (d : Draft σ) (events : List Event) : Draft σ :=
  match d.applyAll handlers events with
  | .ok d' => d'
  | .error (_, d') => d'

theorem reached_nil (d : Draft σ) : d.reached handlers [] = d := rfl

theorem reached_cons_of_ok {d d' : Draft σ} {e : Event} (h : d.apply handlers e = .ok d')
    (es : List Event) : d.reached handlers (e :: es) = d'.reached handlers es := by
  rw [reached, applyAll_cons_of_ok h, reached]

/-- An event that is a fault leaves the draft as it is. -/
theorem reached_cons_of_error {d : Draft σ} {e : Event} {f : Fault × Draft σ}
    (h : d.apply handlers e = .error f) (es : List Event) : d.reached handlers (e :: es) = d := by
  rw [reached, applyAll_cons_of_error h]
  -- Only a clause that closes ends a draft, and it leaves the draft as it is.
  cases e with
  | write c => cases h
  | enter k => cases h
  | leave k depth =>
    cases hanswer : handlers.answer? ⟨k.keyword, d.args⟩ d.state with
    | none =>
      rw [apply_leave_of_unanswered hanswer] at h
      cases h
      rfl
    | some answer =>
      rw [apply_leave_of_some hanswer] at h
      cases h

/-- The clauses that a draft gets to are those that close before the first one that is not
answered. -/
theorem closings_reached (d : Draft σ) (events : List Event) :
    (d.reached handlers events).closings =
      d.closings ++ (closingsOf events).takeWhile handlers.canAnswer := by
  induction events generalizing d with
  | nil => simp [reached_nil]
  | cons e es ih =>
    cases e with
    | write c => exact ih { d with written := c :: d.written }
    | enter k => exact ih { d with written := [], outer := d.written :: d.outer }
    -- The draft goes on past this event exactly when the clause can be answered, as `takeWhile`
    -- does.
    | leave k depth =>
      have hanswers := handlers.answer?_isSome_iff ⟨k.keyword, d.args⟩ d.state
      rw [← Registry.canAnswer_iff (c := ⟨k, depth⟩)] at hanswers
      rw [closingsOf_leave]
      cases hanswer : handlers.answer? ⟨k.keyword, d.args⟩ d.state with
      | none =>
        have hnot : ¬ handlers.canAnswer ⟨k, depth⟩ = true := by
          rw [← hanswers, hanswer]
          exact Bool.false_ne_true
        rw [reached_cons_of_error (apply_leave_of_unanswered hanswer),
          List.takeWhile_cons_of_neg hnot, List.append_nil]
      | some answer =>
        have hcan : handlers.canAnswer ⟨k, depth⟩ = true := by
          rw [← hanswers, hanswer]
          rfl
        rw [reached_cons_of_ok (apply_leave_of_some hanswer), ih, closings_splice,
          List.takeWhile_cons_of_pos hcan, List.append_assoc]
        rfl

/-- A log only grows. -/
theorem log_suffix_reached (d : Draft σ) (events : List Event) :
    d.log <:+ (d.reached handlers events).log := by
  induction events generalizing d with
  | nil => exact List.suffix_refl _
  | cons e es ih =>
    cases happly : d.apply handlers e with
    | error f =>
      exact ⟨[], by rw [reached_cons_of_error happly, List.nil_append]⟩
    | ok d' =>
      -- An event adds at most one call, in front of the log.
      have hstep : d.log <:+ d'.log := by
        cases e with
        | write c =>
          cases happly
          exact List.suffix_refl _
        | enter k =>
          cases happly
          exact List.suffix_refl _
        | leave k depth =>
          obtain ⟨answer, -, rfl⟩ := exists_answer_of_apply_leave happly
          exact List.suffix_cons _ _
      rw [reached_cons_of_ok happly]
      exact hstep.trans (ih d')

/-- Going along more events goes on where the first ones end. -/
theorem log_reached_append (d : Draft σ) (es fs : List Event) :
    (d.reached handlers es).log <:+ (d.reached handlers (es ++ fs)).log := by
  induction es generalizing d with
  | nil => exact log_suffix_reached d fs
  | cons e es ih =>
    rw [List.cons_append]
    -- A fault among the first events ends the longer run as well.
    cases happly : d.apply handlers e with
    | error f =>
      exact ⟨[], by rw [reached_cons_of_error happly, reached_cons_of_error happly,
        List.nil_append]⟩
    | ok d' =>
      rw [reached_cons_of_ok happly, reached_cons_of_ok happly]
      exact ih d'

end Draft

/-! ### The calls of an expansion -/

theorem dispatches_expand (handlers : Registry σ) (text : Text) (state : σ) :
    (expand handlers text state).dispatches =
      ((Draft.start state).reached handlers (Outline.ofText text).events).log.reverse := by
  rw [expand, Draft.reached]
  cases (Draft.start state).applyAll handlers (Outline.ofText text).events with
  | ok d => rfl
  | error f => rfl

/-- The calls are those of the clauses that close, up to the first one that is not answered. -/
theorem closings_dispatches (handlers : Registry σ) (text : Text) (state : σ) :
    (expand handlers text state).dispatches.map Dispatch.closing =
      (closingsOf (Outline.ofText text).events).takeWhile handlers.canAnswer := by
  rw [dispatches_expand]
  exact Draft.closings_reached (.start state) _

/-- A prefix of a text makes a prefix of the calls. -/
theorem dispatches_isPrefix (handlers : Registry σ) (text suffix : Text) (state : σ) :
    (expand handlers text state).dispatches <+:
      (expand handlers (text ++ suffix) state).dispatches := by
  obtain ⟨more, hmore⟩ := Outline.events_isPrefix text suffix
  rw [dispatches_expand, dispatches_expand, ← hmore, List.reverse_prefix]
  exact Draft.log_reached_append _ _ _

/-- In a list that rises with `f`, the elements before the first that fails `p` are those up to
which none fails. -/
theorem mem_takeWhile_of_pairwise {α : Type} {p : α → Bool} {f : α → Nat} {xs : List α}
    (hxs : xs.Pairwise fun x y => f x < f y) {x : α} :
    x ∈ xs.takeWhile p ↔ x ∈ xs ∧ ∀ y ∈ xs, f y ≤ f x → p y = true := by
  induction xs with
  | nil => simp
  | cons first rest ih =>
    obtain ⟨hfirst, hrest⟩ := List.pairwise_cons.1 hxs
    have hfirst' : ∀ y ∈ rest, ¬ f y ≤ f first := fun y hy => Nat.not_le.2 (hfirst y hy)
    cases hp : p first with
    | false =>
      rw [List.takeWhile_cons_of_neg (by simp [hp])]
      refine iff_of_false (by simp) ?_
      rintro ⟨hx, hall⟩
      -- The first element is the least one and stops everything.
      have hle : f first ≤ f x := by
        rcases List.mem_cons.1 hx with rfl | hx
        · exact Nat.le_refl _
        · exact Nat.le_of_lt (hfirst x hx)
      have hfail := hall first List.mem_cons_self hle
      rw [hp] at hfail
      cases hfail
    | true =>
      rw [List.takeWhile_cons_of_pos hp, List.mem_cons, List.mem_cons, ih hrest,
        List.forall_mem_cons]
      constructor
      · rintro (rfl | ⟨hx, hall⟩)
        · exact ⟨.inl rfl, fun _ => hp, fun y hy hle => absurd hle (hfirst' y hy)⟩
        · exact ⟨.inr hx, fun _ => hp, hall⟩
      · rintro ⟨rfl | hx, -, hall⟩
        · exact .inl rfl
        · exact .inr ⟨hx, hall⟩

/-- The calls are those of the spans of levels that are answered, in their order. -/
theorem exists_spans_dispatches (handlers : Registry σ) (text : Text) (state : σ) :
    ∃ l : Levels, (∀ s : Span, s ∈ l.spans ↔ s.StandsIn text) ∧
      (expand handlers text state).dispatches.map Dispatch.closing =
        (l.spans.takeWhile fun s => handlers.canAnswer s.closing).map Span.closing := by
  obtain ⟨l, hl, hclosings⟩ := exists_levels text
  refine ⟨l, fun s => mem_spans_iff hl hclosings, ?_⟩
  rw [closings_dispatches, hclosings, List.takeWhile_map]
  rfl

/-- How a clause whose handler is called stands to one whose handler is called later. -/
structure InsideOut (text : Text) (c later : Closing) : Prop where
  brace_ne : c.clause.brace ≠ later.clause.brace
  /-- It lies inside the later one exactly when its brace comes after that one's. -/
  inside_iff : ∀ stop stop', (Span.mk c stop).StandsIn text → (Span.mk later stop').StandsIn text →
    ((Span.mk c stop).Inside (Span.mk later stop') ↔ later.clause.brace < c.clause.brace)
  /-- Then more clauses are open around it. -/
  depth_lt : later.clause.brace < c.clause.brace → later.depth < c.depth
  /-- Otherwise it ends before the later one begins. -/
  stop_le : ¬ later.clause.brace < c.clause.brace → ∀ stop, (Span.mk c stop).StandsIn text →
    stop ≤ later.clause.brace

theorem Span.Before.insideOut {i j : Span} {text : Text} (h : i.Before j) (hi : i.StandsIn text)
    (hj : j.StandsIn text) : InsideOut text i.closing j.closing := by
  have hlt := hi.brace_lt_stop
  have hstop := h.stop_lt
  have hcases := h.apart_or_inside
  -- The braces decide where the two clauses end.
  have heq : ∀ {s : Span} {stop : Nat}, s.StandsIn text →
      (Span.mk s.closing stop).StandsIn text → stop = s.stop := by
    intro s stop hs hs'
    exact congrArg Span.stop (eq_of_brace_eq hs' hs rfl)
  simp only [brace, depth] at hlt hcases
  refine ⟨by omega, ?_, by omega, ?_⟩
  · intro stop stop' hs hs'
    rw [heq hi hs, heq hj hs']
    exact ⟨fun hinside => hinside.1, fun hbrace => ⟨hbrace, hstop⟩⟩
  · intro hbrace stop hs
    rw [heq hi hs]
    omega

/-- Handlers are called inside out and from left to right, once for each clause that closes.

The calls of an expansion, failed or not, are those of the clauses that stand closed in the text,
up to the first one that is not answered, each with as many clauses around it as are open there.
At the brace of a call the text has an opening brace and the keyword. Of two calls the first one's
clause lies inside that of the second or ends before it begins, and the braces tell which
(`InsideOut`). A prefix of the text makes a prefix of the calls, answers included. -/
theorem dispatches_close_inside_out (handlers : Registry σ) (text : Text) (state : σ) :
    (∀ c : Closing, c ∈ (expand handlers text state).dispatches.map Dispatch.closing ↔
      ∃ stop, (Span.mk c stop).StandsIn text ∧
        ∀ s : Span, s.StandsIn text → s.stop ≤ stop →
          handlers.Answers s.closing.clause.keyword) ∧
    (∀ d ∈ (expand handlers text state).dispatches,
      '\x7b' :: d.clause.keyword <+: text.drop d.clause.brace) ∧
    (expand handlers text state).dispatches.Pairwise
      (fun d later => InsideOut text d.closing later.closing) ∧
    ∀ suffix, (expand handlers text state).dispatches <+:
      (expand handlers (text ++ suffix) state).dispatches := by
  obtain ⟨l, hstands, hdispatches⟩ := exists_spans_dispatches handlers text state
  -- Closing order is the order of the closing braces.
  have hrising : l.spans.Pairwise fun s s' => s.stop < s'.stop :=
    l.pairwise_spans.imp fun h => h.stop_lt
  have hmem : ∀ c : Closing, c ∈ (expand handlers text state).dispatches.map Dispatch.closing ↔
      ∃ stop, (Span.mk c stop).StandsIn text ∧
        ∀ s : Span, s.StandsIn text → s.stop ≤ stop →
          handlers.Answers s.closing.clause.keyword := by
    intro c
    simp only [hdispatches, List.mem_map, mem_takeWhile_of_pairwise hrising, hstands,
      Registry.canAnswer_iff]
    constructor
    · rintro ⟨s, ⟨hs, hall⟩, rfl⟩
      exact ⟨s.stop, hs, hall⟩
    · rintro ⟨stop, hs, hall⟩
      exact ⟨⟨c, stop⟩, ⟨hs, hall⟩, rfl⟩
  refine ⟨hmem, ?_, ?_, fun suffix => dispatches_isPrefix handlers text suffix state⟩
  · intro d hd
    obtain ⟨stop, hs, -⟩ := (hmem d.closing).1 (List.mem_map_of_mem hd)
    exact hs.keyword_isPrefix
  · have hspans : l.spans.Pairwise fun s s' => InsideOut text s.closing s'.closing :=
      l.pairwise_spans.imp_of_mem fun hs hs' h =>
        h.insideOut ((hstands _).1 hs) ((hstands _).1 hs')
    have hcalled := List.pairwise_map.2
      (hspans.sublist (List.takeWhile_sublist fun s => handlers.canAnswer s.closing))
    rw [← hdispatches] at hcalled
    exact List.pairwise_map.1 hcalled

end EscapeClause
