import EscapeClause.Proofs.Completion
import EscapeClause.Proofs.DispatchOrder

/-!
# Texts that are expanded alike

Two texts are expanded alike when the same handlers are called with the same arguments in the same
order, the handlers are left in the same state, and the outcome is the same: the same text, or a
stop at the same keyword (`SameOutcome`).

Items with the same value are expanded alike (`Items.expand_alike`). That is clear where every
keyword has a handler. Elsewhere, register the missing keywords too: with fewer handlers an
expansion makes the same calls up to the first that it has no handler for (`calls_of_agree`), and
the calls decide the state (`state_expand`).
-/

namespace EscapeClause

variable {σ : Type}

/-! ### Calls decide the state -/

/-- The state in which these calls leave the handlers. -/
def Registry.after (handlers : Registry σ) (calls : List Call) (state : σ) : σ :=
  calls.foldl (fun s call => ((handlers.answer? call s).map Prod.snd).getD s) state

theorem Registry.after_cons_of_some {handlers : Registry σ} {call : Call} {state : σ}
    {answer : Text × σ} (h : handlers.answer? call state = some answer) (calls : List Call) :
    handlers.after (call :: calls) state = handlers.after calls answer.2 := by
  rw [after, List.foldl_cons, h]
  rfl

namespace Draft

variable {handlers : Registry σ}

theorem calls_splice (d : Draft σ) (k : Clause) (depth : Nat) (replacement : Text) (state : σ) :
    (d.splice k depth replacement state).calls = d.calls ++ [⟨k.keyword, d.args⟩] := by
  simp [splice, calls, Dispatch.call]

/-- A draft is left in the state that its new calls make. -/
theorem state_reached (handlers : Registry σ) (d : Draft σ) (events : List Event) :
    ∃ more, (d.reached handlers events).calls = d.calls ++ more ∧
      (d.reached handlers events).state = handlers.after more d.state := by
  induction events generalizing d with
  | nil => exact ⟨[], by rw [reached_nil, List.append_nil], rfl⟩
  | cons e es ih =>
    cases e with
    | write c => exact ih { d with written := c :: d.written }
    | enter k => exact ih { d with written := [], outer := d.written :: d.outer }
    -- Only a clause that closes can call a handler, and only an answered call changes the state.
    | leave k depth =>
      cases hanswer : handlers.answer? ⟨k.keyword, d.args⟩ d.state with
      | none =>
        rw [reached_cons_of_error (apply_leave_of_unanswered hanswer)]
        exact ⟨[], by rw [List.append_nil], rfl⟩
      | some answer =>
        obtain ⟨more, hcalls, hstate⟩ := ih (d.splice k depth answer.1 answer.2)
        rw [reached_cons_of_ok (apply_leave_of_some hanswer)]
        refine ⟨⟨k.keyword, d.args⟩ :: more, ?_, ?_⟩
        · rw [hcalls, calls_splice, List.append_assoc, List.singleton_append]
        · exact hstate.trans (Registry.after_cons_of_some hanswer more).symm

theorem exists_apply_of_applyAll_cons {d d' : Draft σ} {e : Event} {es : List Event}
    (h : d.applyAll handlers (e :: es) = .ok d') :
    ∃ moved, d.apply handlers e = .ok moved ∧ moved.applyAll handlers es = .ok d' := by
  rw [applyAll_cons] at h
  cases happly : d.apply handlers e with
  | error f =>
    rw [happly] at h
    cases h
  | ok moved =>
    rw [happly] at h
    exact ⟨moved, rfl, h⟩

/-- A draft that gets to the end has closed all clauses that close. -/
theorem closings_of_applyAll_ok {d d' : Draft σ} {events : List Event}
    (h : d.applyAll handlers events = .ok d') : d'.closings = d.closings ++ closingsOf events := by
  induction events generalizing d with
  | nil =>
    cases h
    simp
  | cons e es ih =>
    cases e with
    | write c => exact ih (d := { d with written := c :: d.written }) h
    | enter k => exact ih (d := { d with written := [], outer := d.written :: d.outer }) h
    -- Nothing was left unanswered, so that every clause that closes adds its call.
    | leave k depth =>
      obtain ⟨moved, happly, hrest⟩ := exists_apply_of_applyAll_cons h
      obtain ⟨answer, -, rfl⟩ := exists_answer_of_apply_leave happly
      rw [ih hrest, closings_splice, List.append_assoc]
      rfl

/-- With fewer handlers a draft logs the same up to the first clause that has none. -/
theorem log_reached_of_agree {handlers' : Registry σ}
    (hagree : ∀ k ∈ handlers.keys, handlers'.get? k = handlers.get? k) {d d' : Draft σ}
    {events : List Event} (h : d.applyAll handlers' events = .ok d') :
    ∃ more, d'.log.reverse = d.log.reverse ++ more ∧
      (d.reached handlers events).log.reverse =
        d.log.reverse ++ more.takeWhile fun x => handlers.contains x.clause.keyword := by
  induction events generalizing d with
  | nil =>
    cases h
    exact ⟨[], by simp, by simp [reached_nil]⟩
  | cons e es ih =>
    cases e with
    | write c => exact ih (d := { d with written := c :: d.written }) h
    | enter k => exact ih (d := { d with written := [], outer := d.written :: d.outer }) h
    | leave k depth =>
      obtain ⟨moved, happly, hrest⟩ := exists_apply_of_applyAll_cons h
      obtain ⟨answer, hanswer, rfl⟩ := exists_answer_of_apply_leave happly
      obtain ⟨more, hlog, hreached⟩ := ih hrest
      simp only [splice, List.reverse_cons, List.append_assoc, List.singleton_append] at hlog
      refine ⟨_, hlog, ?_⟩
      -- The smaller registry follows the larger one up to the first keyword that it does not know,
      -- which is where `takeWhile` ends too.
      cases hknown : handlers.contains k.keyword with
      | false =>
        have herror : d.apply handlers (.leave k depth) = .error (.unknownKeyword k, d) :=
          apply_leave_of_not_knows hknown
        rw [reached_cons_of_error herror, List.takeWhile_cons_of_neg (by simp [hknown]),
          List.append_nil]
      | true =>
        have hsame : handlers.answer? ⟨k.keyword, d.args⟩ d.state = some answer := by
          rw [← hanswer, Registry.answer?, Registry.answer?,
            hagree _ (OrderedMap.contains_iff.1 hknown)]
        rw [reached_cons_of_ok (apply_leave_of_some hsame), hreached,
          List.takeWhile_cons_of_pos (by simp [hknown])]
        simp [splice]

end Draft

/-- The calls of an expansion decide the state in which it leaves the handlers. -/
theorem state_expand (handlers : Registry σ) (text : Text) (state : σ) :
    (expand handlers text state).state =
      handlers.after ((expand handlers text state).dispatches.map Dispatch.call) state := by
  -- The state is the same at the end of the text and at a fault: that of the draft reached.
  have hstate : (expand handlers text state).state =
      ((Draft.start state).reached handlers (Outline.ofText text).events).state := by
    rw [expand, Draft.reached]
    cases (Draft.start state).applyAll handlers (Outline.ofText text).events with
    | ok d => rfl
    | error f => rfl
  obtain ⟨more, hcalls, hafter⟩ :=
    Draft.state_reached handlers (.start state) (Outline.ofText text).events
  have hmore : (expand handlers text state).dispatches.map Dispatch.call = more := by
    rw [dispatches_expand]
    exact hcalls
  rw [hstate, hafter, hmore]
  rfl

/-! ### Fewer handlers -/

/-- With fewer handlers an expansion makes the same calls up to the first that has no handler. -/
theorem calls_of_agree {handlers handlers' : Registry σ}
    (hagree : ∀ k ∈ handlers.keys, handlers'.get? k = handlers.get? k) {text out : Text}
    {state : σ} (h : (expand handlers' text state).result = .ok out) :
    (expand handlers text state).dispatches.map Dispatch.call =
      ((expand handlers' text state).dispatches.map Dispatch.call).takeWhile
        fun call => handlers.contains call.keyword := by
  obtain ⟨d', hd'⟩ := exists_applyAll_ok (.inl ⟨out, h⟩)
  obtain ⟨more, hall, hsome⟩ := Draft.log_reached_of_agree hagree hd'
  have hreached : (Draft.start state).reached handlers' (Outline.ofText text).events = d' := by
    rw [Draft.reached, hd']
  rw [dispatches_expand, dispatches_expand, hreached, hall, hsome, List.takeWhile_map]
  rfl

/-- The expansion of the text ends at a clause with this keyword, which has no handler. -/
def StopsAt (text : Text) (e : Expansion σ) (keyword : Text) : Prop :=
  ∃ s : Span, s.StandsIn text ∧ s.closing.clause.keyword = keyword ∧
    e.result = .error (.malformed (.ofPosition .unknownKeyword text (s.closing.clause.brace + 1)))

/-- Where more handlers expand a text, fewer handlers expand it to the same, or the expansion stops
at the first call that has none. -/
theorem result_of_agree {handlers handlers' : Registry σ} (usable : handlers.Usable)
    (hagree : ∀ k ∈ handlers.keys, handlers'.get? k = handlers.get? k) {text out : Text}
    {state : σ} (h : (expand handlers' text state).result = .ok out) :
    match ((expand handlers' text state).dispatches.map Dispatch.call).find?
      (!handlers.contains ·.keyword) with
    | none => (expand handlers text state).result = .ok out
    | some call => StopsAt text (expand handlers text state) call.keyword := by
  obtain ⟨d', hd'⟩ := exists_applyAll_ok (.inl ⟨out, h⟩)
  have hclosings : (expand handlers' text state).dispatches.map Dispatch.closing =
      closingsOf (Outline.ofText text).events := by
    rw [dispatches_expand, Draft.reached, hd']
    exact Draft.closings_of_applyAll_ok hd'
  obtain ⟨-, hgoverns⟩ := Skeleton.governs_expand usable text state
  -- The first call and the first clause without a handler are the same dispatch.
  let unknown := fun x : Dispatch => !handlers.contains x.clause.keyword
  have hcall : (fun call : Call => !handlers.contains call.keyword) ∘ Dispatch.call = unknown :=
    rfl
  have hclosing : (fun c : Closing => !handlers.knows c) ∘ Dispatch.closing = unknown := rfl
  simp only [Skeleton.ofText, ← hclosings, List.find?_map, hclosing] at hgoverns
  rw [List.find?_map, hcall]
  cases hfind : (expand handlers' text state).dispatches.find? unknown with
  | none =>
    simp only [hfind, Option.map_none] at hgoverns ⊢
    rw [← expand_eq_of_agree hagree, h]
    cases hrefusal : (Outline.ofText text).refusal with
    | none =>
      rw [hrefusal] at hgoverns
      exact .inl hgoverns
    | some refusal =>
      rw [hrefusal] at hgoverns
      exact .inr ⟨_, hgoverns, Outline.cause_of_refusal hrefusal⟩
  | some x =>
    simp only [hfind, Option.map_some] at hgoverns ⊢
    have hmem : x.closing ∈ closingsOf (Outline.ofText text).events := by
      rw [← hclosings]
      exact List.mem_map_of_mem (List.mem_of_find?_eq_some hfind)
    obtain ⟨s, hs, heq⟩ := exists_span_of_mem_closings hmem
    refine ⟨s, hs, by rw [heq]; rfl, ?_⟩
    rw [hgoverns, heq]

/-- Two texts are expanded alike. -/
structure SameOutcome (handlers : Registry σ) (text text' : Text) (start : σ) : Prop where
  calls : (expand handlers text start).dispatches.map Dispatch.call =
    (expand handlers text' start).dispatches.map Dispatch.call
  state : (expand handlers text start).state = (expand handlers text' start).state
  result : (∃ out, (expand handlers text start).result = .ok out ∧
      (expand handlers text' start).result = .ok out) ∨
    ∃ keyword, keyword ∉ handlers.keys ∧ StopsAt text (expand handlers text start) keyword ∧
      StopsAt text' (expand handlers text' start) keyword

/-- Items with the same value, whatever is registered, are expanded alike. -/
theorem Items.expand_alike {i j : Items}
    (h : ∀ handlers : Registry σ, i.value handlers = j.value handlers) {handlers : Registry σ}
    (usable : handlers.Usable) (state : σ) : SameOutcome handlers i.spelling j.spelling state := by
  -- Where the missing keywords are registered too, both have a value.
  let handlers' := handlers.withKeywords i.keywords
  have hagree : ∀ k ∈ handlers.keys, handlers'.get? k = handlers.get? k :=
    fun k hk => Registry.get?_withKeywords_of_mem hk i.keywords
  obtain ⟨out, hout⟩ := exists_expand_withKeywords usable i state
  obtain ⟨k, hk, w, hi, rfl⟩ := expand_ok_iff_value.1 hout
  obtain rfl := spelling_injective hk
  have hj := hi
  rw [h] at hj
  obtain ⟨hresult, hcalls, -⟩ := expand_spelling_of_some hi
  obtain ⟨hresult', hcalls', -⟩ := expand_spelling_of_some hj
  have hsame : (expand handlers k.spelling state).dispatches.map Dispatch.call =
      (expand handlers j.spelling state).dispatches.map Dispatch.call := by
    rw [calls_of_agree hagree hresult, calls_of_agree hagree hresult', hcalls, hcalls']
  refine ⟨hsame, by rw [state_expand, state_expand, hsame], ?_⟩
  have hi' := result_of_agree usable hagree hresult
  have hj' := result_of_agree usable hagree hresult'
  rw [hcalls] at hi'
  rw [hcalls'] at hj'
  cases hfind : w.calls.find? (!handlers.contains ·.keyword) with
  | none =>
    rw [hfind] at hi' hj'
    exact .inl ⟨w.text, hi', hj'⟩
  | some call =>
    rw [hfind] at hi' hj'
    have hunknown := List.find?_some hfind
    refine .inr ⟨call.keyword, ?_, hi', hj'⟩
    rw [← OrderedMap.contains_iff]
    simpa using hunknown

end EscapeClause
