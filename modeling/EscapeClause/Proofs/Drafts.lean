import EscapeClause.Expansion

/-!
# What drafts do with events

Of the events of an outline only a closing clause asks the registry for something. What a draft
does there is said once, by the answer to one call (`Registry.answer?`). From that follow the
three facts about whole lists of events on which the theory of expanding rests:

* `Draft.applyAll_closings`: where every registered value can answer, a draft goes along the
  clauses that close up to the first whose keyword has no handler, and fails there.
* `Draft.exists_applyAll_iff`: a draft gets to the end exactly when every clause that closes is
  answered.
* `Draft.applyAll_congr`: two registries that agree on the keywords of the closing clauses make the
  same draft.
-/

namespace EscapeClause

variable {σ : Type}

/-- What a handler is asked. -/
structure Call where
  keyword : Text
  args : Text
  deriving DecidableEq, Repr

/-- A clause that closes, and the number of clauses open around it. -/
structure Closing where
  clause : Clause
  depth : Nat
  deriving DecidableEq, Repr

def Dispatch.call (d : Dispatch) : Call := ⟨d.clause.keyword, d.args⟩

def Dispatch.closing (d : Dispatch) : Closing := ⟨d.clause, d.depth⟩

def Event.closing? : Event → Option Closing
  | leave clause depth => some ⟨clause, depth⟩
  | _ => none

def closingsOf (events : List Event) : List Closing := events.filterMap Event.closing?

@[simp] theorem closingsOf_nil : closingsOf [] = [] := rfl

@[simp] theorem closingsOf_write (c : Char) (es : List Event) :
    closingsOf (.write c :: es) = closingsOf es := rfl

@[simp] theorem closingsOf_enter (k : Clause) (es : List Event) :
    closingsOf (.enter k :: es) = closingsOf es := rfl

@[simp] theorem closingsOf_leave (k : Clause) (depth : Nat) (es : List Event) :
    closingsOf (.leave k depth :: es) = ⟨k, depth⟩ :: closingsOf es := rfl

@[simp] theorem closingsOf_append (es fs : List Event) :
    closingsOf (es ++ fs) = closingsOf es ++ closingsOf fs := List.filterMap_append

@[simp] theorem closingsOf_map_write (t : Text) : closingsOf (t.map .write) = [] := by
  induction t with
  | nil => rfl
  | cons c r ih => exact ih

/-! ### Registries that can answer -/

namespace Registry

def answer? (handlers : Registry σ) (call : Call) (state : σ) : Option (Text × σ) :=
  (handlers.get? call.keyword).bind fun h => h.process call.keyword call.args state

/-- What ends a draft at a clause that is not answered. -/
def fault (handlers : Registry σ) (k : Clause) : Fault :=
  match handlers.get? k.keyword with
  | none => .unknownKeyword k
  | some handler => .inert handler.label

/-- A value is registered for the keyword, and it can answer. -/
def Answers (handlers : Registry σ) (keyword : Text) : Prop :=
  ∃ handler, handlers.get? keyword = some handler ∧ handler.isUsable = true

def AnswersAll (handlers : Registry σ) (events : List Event) : Prop :=
  ∀ c ∈ closingsOf events, handlers.Answers c.clause.keyword

/-- Every registered value can answer, as a parser demands of its registry. -/
def Usable (handlers : Registry σ) : Prop := handlers.firstInert? = none

def knows (handlers : Registry σ) (c : Closing) : Bool := handlers.contains c.clause.keyword

theorem usable_standard : (standard : Registry σ).Usable := by
  rw [Usable, firstInert?_eq_none_iff, entries_standard]
  simp [standardEntries, Handler.isUsable]

theorem answer?_isSome_iff (handlers : Registry σ) (call : Call) (state : σ) :
    (handlers.answer? call state).isSome ↔ handlers.Answers call.keyword := by
  rw [answer?, Answers]
  cases handlers.get? call.keyword with
  | none => simp
  | some handler => simp [Handler.process_isSome]

theorem Answers.mem_keys {handlers : Registry σ} {keyword : Text}
    (h : handlers.Answers keyword) : keyword ∈ handlers.keys := by
  obtain ⟨handler, hget, -⟩ := h
  rw [← OrderedMap.get?_isSome, hget]
  rfl

theorem answers_iff_mem_keys {handlers : Registry σ} (usable : handlers.Usable)
    {keyword : Text} : handlers.Answers keyword ↔ keyword ∈ handlers.keys := by
  refine ⟨Answers.mem_keys, fun h => ?_⟩
  obtain ⟨handler, hget⟩ := Option.isSome_iff_exists.1 ((OrderedMap.get?_isSome _ _).2 h)
  exact ⟨handler, hget,
    firstInert?_eq_none_iff.1 usable _ (OrderedMap.mem_entries_of_get? hget)⟩

theorem answersAll_nil (handlers : Registry σ) : handlers.AnswersAll [] := by simp [AnswersAll]

theorem answersAll_leave_iff {handlers : Registry σ} {k : Clause} {depth : Nat}
    {es : List Event} : handlers.AnswersAll (.leave k depth :: es) ↔
      handlers.Answers k.keyword ∧ handlers.AnswersAll es := by
  rw [AnswersAll, closingsOf_leave, List.forall_mem_cons]
  rfl

/-- What closes before a place is answered if all that closes is. -/
theorem AnswersAll.of_isPrefix {handlers : Registry σ} {es fs : List Event}
    (h : handlers.AnswersAll fs) (hbegins : es <+: fs) : handlers.AnswersAll es := by
  obtain ⟨more, rfl⟩ := hbegins
  intro c hc
  exact h c (by rw [closingsOf_append]; exact List.mem_append_left _ hc)

theorem knows_iff {handlers : Registry σ} {c : Closing} :
    handlers.knows c = true ↔ c.clause.keyword ∈ handlers.keys :=
  OrderedMap.contains_iff

end Registry

/-! ### One event -/

namespace Draft

variable {handlers : Registry σ}

/-- The calls of handlers that a draft has made, in order. -/
def calls (d : Draft σ) : List Call := d.log.reverse.map Dispatch.call

def closings (d : Draft σ) : List Closing := d.log.reverse.map Dispatch.closing

theorem closings_splice (d : Draft σ) (k : Clause) (depth : Nat) (replacement : Text) (state : σ) :
    (d.splice k depth replacement state).closings = d.closings ++ [⟨k, depth⟩] := by
  simp [splice, closings, Dispatch.closing]

theorem apply_leave_of_some {d : Draft σ} {k : Clause} {depth : Nat} {answer : Text × σ}
    (h : handlers.answer? ⟨k.keyword, d.args⟩ d.state = some answer) :
    d.apply handlers (.leave k depth) = .ok (d.splice k depth answer.1 answer.2) := by
  obtain ⟨handler, hget, hprocess⟩ := Option.bind_eq_some_iff.1 h
  simp [apply, hget, hprocess]

/-- A clause that is not answered ends a draft and leaves it as it is. -/
theorem apply_leave_of_unanswered {d : Draft σ} {k : Clause} {depth : Nat}
    (h : handlers.answer? ⟨k.keyword, d.args⟩ d.state = none) :
    d.apply handlers (.leave k depth) = .error (handlers.fault k, d) := by
  rw [Registry.answer?] at h
  rw [apply, Registry.fault]
  cases hget : handlers.get? k.keyword with
  | none => rfl
  | some handler =>
    rw [hget, Option.bind_some] at h
    simp only [h]

theorem apply_leave_of_none {d : Draft σ} {k : Clause} {depth : Nat}
    (h : handlers.answer? ⟨k.keyword, d.args⟩ d.state = none) :
    ∃ e, d.apply handlers (.leave k depth) = .error e :=
  ⟨_, apply_leave_of_unanswered h⟩

/-- A clause that closes without a fault was answered. -/
theorem exists_answer_of_apply_leave {d d' : Draft σ} {k : Clause} {depth : Nat}
    (h : d.apply handlers (.leave k depth) = .ok d') :
    ∃ answer : Text × σ, handlers.answer? ⟨k.keyword, d.args⟩ d.state = some answer ∧
      d' = d.splice k depth answer.1 answer.2 := by
  cases hanswer : handlers.answer? ⟨k.keyword, d.args⟩ d.state with
  | none =>
    rw [apply_leave_of_unanswered hanswer] at h
    cases h
  | some answer =>
    rw [apply_leave_of_some hanswer] at h
    cases h
    exact ⟨answer, rfl, rfl⟩

theorem apply_leave_of_not_knows {d : Draft σ} {k : Clause} {depth : Nat}
    (h : handlers.knows ⟨k, depth⟩ = false) :
    d.apply handlers (.leave k depth) = .error (.unknownKeyword k, d) := by
  have hget : handlers.get? k.keyword = none := by
    simpa [Registry.knows, OrderedMap.contains] using h
  simp [apply, hget]

/-- A registered keyword is answered where every value can answer. -/
theorem apply_leave_of_knows (usable : handlers.Usable) {d : Draft σ} {k : Clause} {depth : Nat}
    (h : handlers.knows ⟨k, depth⟩ = true) :
    ∃ answer : Text × σ,
      d.apply handlers (.leave k depth) = .ok (d.splice k depth answer.1 answer.2) := by
  have hanswers := (Registry.answers_iff_mem_keys usable).2 (Registry.knows_iff.1 h)
  obtain ⟨answer, hanswer⟩ := Option.isSome_iff_exists.1
    ((handlers.answer?_isSome_iff ⟨k.keyword, d.args⟩ d.state).2 hanswers)
  exact ⟨answer, apply_leave_of_some hanswer⟩

theorem applyAll_singleton (d : Draft σ) (e : Event) :
    d.applyAll handlers [e] = d.apply handlers e := by
  rw [applyAll_cons]
  cases d.apply handlers e <;> rfl

theorem applyAll_cons_of_ok {d d' : Draft σ} {e : Event} (h : d.apply handlers e = .ok d')
    (es : List Event) : d.applyAll handlers (e :: es) = d'.applyAll handlers es := by
  rw [applyAll_cons, h]
  rfl

theorem applyAll_cons_of_error {d : Draft σ} {e : Event} {f : Fault × Draft σ}
    (h : d.apply handlers e = .error f) (es : List Event) :
    d.applyAll handlers (e :: es) = .error f := by
  rw [applyAll_cons, h]
  rfl

/-! ### All events -/

/-- Code points that stand for themselves go to the innermost level. -/
theorem applyAll_map_write (d : Draft σ) (t : Text) :
    d.applyAll handlers (t.map .write) = .ok { d with written := t.reverse ++ d.written } := by
  induction t generalizing d with
  | nil => rfl
  | cons c r ih =>
    have hwrite : d.apply handlers (.write c) = .ok { d with written := c :: d.written } := rfl
    rw [List.map_cons, applyAll_cons_of_ok hwrite, ih, List.reverse_cons, List.append_assoc,
      List.singleton_append]

/-- A draft goes along the closing clauses up to the first whose keyword has no handler. -/
theorem applyAll_closings (usable : handlers.Usable) (d : Draft σ) (events : List Event) :
    match (closingsOf events).find? (!handlers.knows ·) with
    | none => ∃ d', d.applyAll handlers events = .ok d' ∧
        d'.closings = d.closings ++ (closingsOf events).takeWhile handlers.knows
    | some c => ∃ d', d.applyAll handlers events = .error (.unknownKeyword c.clause, d') ∧
        d'.closings = d.closings ++ (closingsOf events).takeWhile handlers.knows := by
  induction events generalizing d with
  | nil => exact ⟨d, rfl, by simp⟩
  | cons e es ih =>
    cases e with
    | write c => exact ih { d with written := c :: d.written }
    | enter k => exact ih { d with written := [], outer := d.written :: d.outer }
    | leave k depth =>
      rw [closingsOf_leave]
      -- An unknown keyword ends the draft before the call; a known one adds a call that `closings`
      -- lists first.
      cases hknows : handlers.knows ⟨k, depth⟩ with
      | false =>
        rw [List.find?_cons_of_pos (by simp [hknows])]
        refine ⟨d, applyAll_cons_of_error (apply_leave_of_not_knows hknows) es, ?_⟩
        rw [List.takeWhile_cons_of_neg (by simp [hknows]), List.append_nil]
      | true =>
        obtain ⟨answer, hanswer⟩ := apply_leave_of_knows (d := d) usable hknows
        have hrest := ih (d.splice k depth answer.1 answer.2)
        rw [closings_splice, List.append_assoc, List.singleton_append] at hrest
        rw [List.find?_cons_of_neg (by simp [hknows]), applyAll_cons_of_ok hanswer,
          List.takeWhile_cons_of_pos hknows]
        exact hrest

/-- A draft gets to the end exactly when every clause that closes is answered. -/
theorem exists_applyAll_iff {d : Draft σ} {events : List Event} :
    (∃ d', d.applyAll handlers events = .ok d') ↔ handlers.AnswersAll events := by
  induction events generalizing d with
  | nil => exact ⟨fun _ => handlers.answersAll_nil, fun _ => ⟨d, rfl⟩⟩
  | cons e es ih =>
    cases e with
    | write c => exact ih (d := { d with written := c :: d.written })
    | enter k => exact ih (d := { d with written := [], outer := d.written :: d.outer })
    -- Writing and entering never fail.
    | leave k depth =>
      have hanswers := handlers.answer?_isSome_iff ⟨k.keyword, d.args⟩ d.state
      rw [Registry.answersAll_leave_iff, ← hanswers]
      cases hanswer : handlers.answer? ⟨k.keyword, d.args⟩ d.state with
      | none => simp [applyAll_cons_of_error (apply_leave_of_unanswered hanswer)]
      | some answer => simp [applyAll_cons_of_ok (apply_leave_of_some hanswer), ih]

/-- A draft that gets to the end has met registered keywords only. -/
theorem mem_keys_of_applyAll_ok {d d' : Draft σ} {events : List Event}
    (h : d.applyAll handlers events = .ok d') :
    ∀ c ∈ closingsOf events, c.clause.keyword ∈ handlers.keys :=
  fun c hc => (exists_applyAll_iff.1 ⟨d', h⟩ c hc).mem_keys

/-- A draft ends early at the first clause that is not answered. -/
theorem exists_leave_of_applyAll_error {d d' : Draft σ} {events : List Event} {fault : Fault}
    (h : d.applyAll handlers events = .error (fault, d')) :
    ∃ es k depth fs, events = es ++ .leave k depth :: fs ∧
      handlers.AnswersAll es ∧ fault = handlers.fault k := by
  induction events generalizing d with
  | nil => cases h
  | cons e events ih =>
    cases happly : d.apply handlers e with
    | ok m =>
      rw [applyAll_cons_of_ok happly] at h
      obtain ⟨es, k, depth, fs, rfl, hes, hfault⟩ := ih h
      -- Whether all clauses are answered does not depend on the draft, so the first event is added
      -- through any run.
      obtain ⟨m', hm'⟩ := exists_applyAll_iff.2 hes
      have hall : d.applyAll handlers (e :: es) = .ok m' := by rw [applyAll_cons_of_ok happly, hm']
      exact ⟨e :: es, k, depth, fs, rfl, exists_applyAll_iff.1 ⟨m', hall⟩, hfault⟩
    | error f =>
      rw [applyAll_cons_of_error happly] at h
      cases h
      -- The fault is at this event, which then is one that closes a clause.
      cases e with
      | write c => cases happly
      | enter k => cases happly
      | leave k depth =>
        cases hanswer : handlers.answer? ⟨k.keyword, d.args⟩ d.state with
        | some answer =>
          rw [apply_leave_of_some hanswer] at happly
          cases happly
        | none =>
          rw [apply_leave_of_unanswered hanswer] at happly
          cases happly
          exact ⟨[], k, depth, events, rfl, handlers.answersAll_nil, rfl⟩

/-- Registries that agree on the keywords of the closing clauses make the same draft. -/
theorem applyAll_congr {handlers' : Registry σ} {d : Draft σ} {events : List Event}
    (h : ∀ c ∈ closingsOf events,
      handlers'.get? c.clause.keyword = handlers.get? c.clause.keyword) :
    d.applyAll handlers' events = d.applyAll handlers events := by
  induction events generalizing d with
  | nil => rfl
  | cons e es ih =>
    cases e with
    | write c => exact ih h
    | enter k => exact ih h
    | leave k depth =>
      rw [closingsOf_leave, List.forall_mem_cons] at h
      -- Only the handler of this one keyword is asked.
      have happly : d.apply handlers' (.leave k depth) = d.apply handlers (.leave k depth) := by
        simp only [apply, h.1]
      rw [applyAll_cons, applyAll_cons, happly]
      cases d.apply handlers (.leave k depth) with
      | error f => rfl
      | ok moved => exact ih h.2

end Draft

/-! ### Expanding -/

/-- A text is expanded exactly when nothing in it is refused and every clause is answered. -/
theorem exists_expand_iff {handlers : Registry σ} {text : Text} {state : σ} :
    (∃ out, (expand handlers text state).result = .ok out) ↔
      (Outline.ofText text).refusal = none ∧ handlers.AnswersAll (Outline.ofText text).events := by
  rw [← Draft.exists_applyAll_iff (d := .start state)]
  cases hrun : (Draft.start state).applyAll handlers (Outline.ofText text).events with
  | error f => simp [expand, hrun]
  | ok d => cases hrefusal : (Outline.ofText text).refusal <;> simp [expand, hrun, hrefusal]

/-- A text whose clauses are all answered is refused as its outline says. -/
theorem expand_of_refusal {handlers : Registry σ} {text : Text} {refusal : Refusal}
    (hrefusal : (Outline.ofText text).refusal = some refusal)
    (hanswers : handlers.AnswersAll (Outline.ofText text).events) (state : σ) :
    (expand handlers text state).result = .error (.malformed (refusal.syntaxError text)) := by
  obtain ⟨d, hd⟩ := (Draft.exists_applyAll_iff (d := .start state)).2 hanswers
  simp only [expand, hd, hrefusal]

/-- A text is malformed at the first clause that is not answered, for its unknown keyword, or else
as its outline says. -/
theorem cases_of_malformed {handlers : Registry σ} {text : Text} {state : σ} {e : SyntaxError}
    (h : (expand handlers text state).result = .error (.malformed e)) :
    (∃ es k depth fs, (Outline.ofText text).events = es ++ .leave k depth :: fs ∧
      handlers.AnswersAll es ∧ k.keyword ∉ handlers.keys ∧
      e = .ofPosition .unknownKeyword text ((k.brace + 1 : Nat) : Int)) ∨
    ∃ refusal, (Outline.ofText text).refusal = some refusal ∧
      handlers.AnswersAll (Outline.ofText text).events ∧ e = refusal.syntaxError text := by
  unfold expand at h
  cases hrun : (Draft.start state).applyAll handlers (Outline.ofText text).events with
  | ok d =>
    simp only [hrun] at h
    cases hrefusal : (Outline.ofText text).refusal with
    | none =>
      rw [hrefusal] at h
      cases h
    | some refusal =>
      rw [hrefusal] at h
      cases h
      exact .inr ⟨refusal, rfl, Draft.exists_applyAll_iff.1 ⟨d, hrun⟩, rfl⟩
  | error f =>
    simp only [hrun] at h
    obtain ⟨es, k, depth, fs, hevents, hanswers, hfault⟩ :=
      Draft.exists_leave_of_applyAll_error hrun
    rw [hfault, Registry.fault] at h
    -- The fault is a malformation, so no value is registered at all.
    cases hget : handlers.get? k.keyword with
    | some handler =>
      rw [hget] at h
      cases h
    | none =>
      have hkey : k.keyword ∉ handlers.keys := by rw [← OrderedMap.get?_isSome, hget]; simp
      rw [hget] at h
      cases h
      exact .inl ⟨es, k, depth, fs, hevents, hanswers, hkey, rfl⟩

/-- Where every value can answer, a text that is not expanded is malformed. -/
theorem malformed_of_usable {handlers : Registry σ} (usable : handlers.Usable) {text : Text}
    {state : σ} {failure : Failure} (h : (expand handlers text state).result = .error failure) :
    ∃ e, failure = .malformed e := by
  have hrun := Draft.applyAll_closings usable (.start state) (Outline.ofText text).events
  unfold expand at h
  -- With a usable registry a draft ends at its last event or at an unknown keyword.
  split at hrun
  · obtain ⟨d, hd, -⟩ := hrun
    simp only [hd] at h
    cases hrefusal : (Outline.ofText text).refusal with
    | none => simp [hrefusal] at h
    | some refusal =>
      simp only [hrefusal, Except.error.injEq] at h
      exact ⟨_, h.symm⟩
  · obtain ⟨d, hd, -⟩ := hrun
    simp only [hd, Fault.failure, Except.error.injEq] at h
    exact ⟨_, h.symm⟩

end EscapeClause
