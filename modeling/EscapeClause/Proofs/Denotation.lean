import EscapeClause.Proofs.Drafts
import EscapeClause.Proofs.Reading

/-!
# What expanding means

The value of a sequence of items (`Items.value`) is put together from the values of the items: a
plain code point and a quoted region stand for themselves, and a clause stands for the answer of
its handler to the keyword and the trimmed value of the tail. Handlers may keep a state, so a value
is a `Rewriter`, which goes along with a state and with the calls that are made.

The main statement (`expand_eq_value`) is that expanding a text computes the value of the items
that spell it, and fails with a syntax error exactly where no items spell the text or a keyword has
no handler.
-/

namespace EscapeClause

variable {σ : Type}

/-! ### Rewriters -/

/-- What came of rewriting a stretch of text. -/
@[ext] structure Rewriting (σ : Type) where
  text : Text
  calls : List Call
  /-- The state in which the calls left the handlers. -/
  state : σ

/-- Rewrites a stretch of text, if every clause in it is answered. -/
def Rewriter (σ : Type) := σ → Option (Rewriting σ)

namespace Rewriter

def write (t : Text) : Rewriter σ := fun s => some ⟨t, [], s⟩

def andThen (first second : Rewriter σ) : Rewriter σ := fun s =>
  (first s).bind fun a =>
    (second a.state).map fun b => ⟨a.text ++ b.text, a.calls ++ b.calls, b.state⟩

/-- Writes the answer to a clause whose tail is rewritten by `tail`. -/
def answer (handlers : Registry σ) (keyword : Text) (tail : Rewriter σ) : Rewriter σ := fun s =>
  (tail s).bind fun a =>
    (handlers.answer? ⟨keyword, Text.strip a.text⟩ a.state).map fun r =>
      ⟨r.1, a.calls ++ [⟨keyword, Text.strip a.text⟩], r.2⟩

end Rewriter

def Items.value (handlers : Registry σ) : Items → Rewriter σ
  | nil => .write []
  | plain c _ rest => (Rewriter.write [c]).andThen (rest.value handlers)
  | quoted q body _ rest =>
    (Rewriter.write (q.opener :: body ++ [q.closer])).andThen (rest.value handlers)
  | bare k rest =>
    (Rewriter.answer handlers k.text (.write [])).andThen (rest.value handlers)
  | clause k c _ tail rest =>
    (Rewriter.answer handlers k.text ((Rewriter.write [c]).andThen (tail.value handlers))).andThen
      (rest.value handlers)

theorem Rewriter.write_nil_andThen (r : Rewriter σ) : (write []).andThen r = r := by
  funext s
  cases h : r s <;> simp [andThen, write, h]

theorem Rewriter.andThen_write_nil (r : Rewriter σ) : r.andThen (write []) = r := by
  funext s
  cases h : r s <;> simp [andThen, write, h]

theorem Rewriter.write_andThen_write (t u : Text) :
    (write t : Rewriter σ).andThen (write u) = write (t ++ u) := rfl

theorem Rewriter.andThen_assoc (a b c : Rewriter σ) :
    (a.andThen b).andThen c = a.andThen (b.andThen c) := by
  funext s
  cases ha : a s with
  | none => simp [andThen, ha]
  | some x =>
    cases hb : b x.state with
    | none => simp [andThen, ha, hb]
    | some y => cases hc : c y.state <;> simp [andThen, ha, hb, hc]

theorem Rewriter.andThen_eq_some_iff {a b : Rewriter σ} {s : σ} {w : Rewriting σ} :
    a.andThen b s = some w ↔
      ∃ x y, a s = some x ∧ b x.state = some y ∧
        w = ⟨x.text ++ y.text, x.calls ++ y.calls, y.state⟩ := by
  simp [andThen, Option.bind_eq_some_iff, eq_comm (a := w)]

theorem Rewriter.write_andThen_eq_some_iff {t : Text} {b : Rewriter σ} {s : σ} {w : Rewriting σ} :
    (write t).andThen b s = some w ↔
      ∃ y, b s = some y ∧ w = ⟨t ++ y.text, y.calls, y.state⟩ := by
  simp [andThen_eq_some_iff, write]

theorem Rewriter.answer_eq_some_iff {handlers : Registry σ} {keyword : Text} {tail : Rewriter σ}
    {s : σ} {w : Rewriting σ} :
    answer handlers keyword tail s = some w ↔
      ∃ x r, tail s = some x ∧ handlers.answer? ⟨keyword, Text.strip x.text⟩ x.state = some r ∧
        w = ⟨r.1, x.calls ++ [⟨keyword, Text.strip x.text⟩], r.2⟩ := by
  simp [answer, Option.bind_eq_some_iff, eq_comm (a := w)]

theorem Items.value_append (handlers : Registry σ) (i j : Items) :
    (i.append j).value handlers = (i.value handlers).andThen (j.value handlers) := by
  induction i with
  | nil => exact (Rewriter.write_nil_andThen _).symm
  | plain c hc rest ih => rw [append, value, value, ih, Rewriter.andThen_assoc]
  | quoted q body hb rest ih => rw [append, value, value, ih, Rewriter.andThen_assoc]
  | bare k rest ih => rw [append, value, value, ih, Rewriter.andThen_assoc]
  | clause k c hc tail rest _ ih => rw [append, value, value, ih, Rewriter.andThen_assoc]

/-! ### Drafts and rewriters -/

/-- A draft goes on by this rewriting: its innermost level writes the text, and the levels around
it stay. -/
structure Draft.Extends (d : Draft σ) (w : Rewriting σ) (d' : Draft σ) : Prop where
  written : d'.written = w.text.reverse ++ d.written
  outer : d'.outer = d.outer
  calls : d'.calls = d.calls ++ w.calls
  state : d'.state = w.state

/-- Going along these events does what the rewriter does, from every draft. -/
def Realizes (handlers : Registry σ) (events : List Event) (r : Rewriter σ) : Prop :=
  ∀ d : Draft σ,
    match r d.state with
    | some w => ∃ d', d.applyAll handlers events = .ok d' ∧ d.Extends w d'
    | none => ∃ e, d.applyAll handlers events = .error e

theorem Draft.Extends.trans {d d' d'' : Draft σ} {w v : Rewriting σ} (h : d.Extends w d')
    (h' : d'.Extends v d'') : d.Extends ⟨w.text ++ v.text, w.calls ++ v.calls, v.state⟩ d'' where
  written := by rw [h'.written, h.written, List.reverse_append, List.append_assoc]
  outer := h'.outer.trans h.outer
  calls := by rw [h'.calls, h.calls, List.append_assoc]
  state := h'.state

namespace Realizes

variable {handlers : Registry σ}

theorem write (t : Text) : Realizes handlers (t.map .write) (.write t) := by
  intro d
  exact ⟨_, Draft.applyAll_map_write d t, rfl, rfl, (List.append_nil _).symm, rfl⟩

/-- One stretch after the other. -/
theorem append {es fs : List Event} {r q : Rewriter σ} (hr : Realizes handlers es r)
    (hq : Realizes handlers fs q) : Realizes handlers (es ++ fs) (r.andThen q) := by
  intro d
  rw [Draft.applyAll_append, Rewriter.andThen]
  have hfirst := hr d
  -- The second stretch goes on from the draft and the state in which the first one leaves off.
  cases hw : r d.state with
  | none =>
    rw [hw] at hfirst
    obtain ⟨e, he⟩ := hfirst
    exact ⟨e, by rw [he]; rfl⟩
  | some w =>
    rw [hw] at hfirst
    obtain ⟨d', hd', hext⟩ := hfirst
    have hsecond := hq d'
    rw [hext.state] at hsecond
    rw [hd', Option.bind_some]
    cases hv : q w.state with
    | none =>
      rw [hv] at hsecond
      exact hsecond
    | some v =>
      rw [hv] at hsecond
      obtain ⟨d'', hd'', hext'⟩ := hsecond
      exact ⟨d'', hd'', hext.trans hext'⟩

/-- A clause around a tail. -/
theorem clause {es : List Event} {r : Rewriter σ} (hr : Realizes handlers es r) (k : Clause)
    (depth : Nat) :
    Realizes handlers (.enter k :: (es ++ [.leave k depth]))
      (.answer handlers k.keyword r) := by
  intro d
  have hinner := hr { d with written := [], outer := d.written :: d.outer }
  simp only at hinner
  rw [Draft.applyAll_cons, Draft.apply, Except.bind, Draft.applyAll_append, Rewriter.answer]
  cases hw : r d.state with
  | none =>
    rw [hw] at hinner
    obtain ⟨e, he⟩ := hinner
    exact ⟨e, by rw [he]; rfl⟩
  | some w =>
    rw [hw] at hinner
    obtain ⟨d', hd', hext⟩ := hinner
    -- When the clause closes, its level has written the value of the tail.
    have hargs : d'.args = Text.strip w.text := by
      rw [Draft.args, Draft.text, hext.written]
      simp
    rw [hd', Except.bind, Draft.applyAll_singleton, Option.bind_some]
    cases hanswer : handlers.answer? ⟨k.keyword, Text.strip w.text⟩ w.state with
    | none =>
      rw [← hargs, ← hext.state] at hanswer
      exact Draft.apply_leave_of_none hanswer
    | some a =>
      refine ⟨d'.splice k depth a.1 a.2, Draft.apply_leave_of_some ?_, ?_, ?_, ?_, rfl⟩
      · rw [hargs, hext.state, hanswer]
      · simp [Draft.splice, hext.outer]
      · simp [Draft.splice, hext.outer]
      · have hcalls := hext.calls
        simp only [Draft.calls] at hcalls
        simp [Draft.splice, Draft.calls, hcalls, hargs, Dispatch.call]

end Realizes

/-- Going along the events of items writes their value. -/
theorem Items.realizes_events (handlers : Registry σ) (items : Items) (p depth : Nat) :
    Realizes handlers (items.events p depth) (items.value handlers) := by
  induction items generalizing p depth with
  | nil => exact .write []
  | plain c hc rest ih => exact (Realizes.write [c]).append (ih _ _)
  | quoted q body hb rest ih =>
    have hregion : Realizes handlers _ _ := .write (q.opener :: body ++ [q.closer])
    have h := hregion.append (ih (p + 1 + body.length + 1) depth)
    simpa [events, value] using h
  | bare k rest ih =>
    exact (Realizes.clause (.write []) ⟨p, k.text⟩ depth).append (ih _ _)
  -- The white space before the tail is written on the level of the tail.
  | clause k c hc tail rest ihtail ih =>
    have hblank : Realizes handlers _ _ := .write [c]
    have htail := hblank.append (ihtail (p + 1 + k.text.length + 1) (depth + 1))
    have h := (Realizes.clause htail ⟨p, k.text⟩ depth).append
      (ih (p + 1 + k.text.length + 1 + tail.spelling.length + 1) depth)
    simpa [events, value] using h

/-! ### Which sequences have a value -/

theorem Rewriter.andThen_isSome_iff {a b : Rewriter σ} {p q : Prop}
    (ha : ∀ s, (a s).isSome ↔ p) (hb : ∀ s, (b s).isSome ↔ q) (s : σ) :
    ((a.andThen b) s).isSome ↔ p ∧ q := by
  rw [← ha s, andThen]
  cases a s with
  | none => simp
  | some x => simp [← hb x.state]

theorem Rewriter.answer_isSome_iff (handlers : Registry σ) (keyword : Text) {tail : Rewriter σ}
    {p : Prop} (htail : ∀ s, (tail s).isSome ↔ p) (s : σ) :
    ((answer handlers keyword tail) s).isSome ↔ handlers.Answers keyword ∧ p := by
  rw [← htail s, answer]
  cases tail s with
  | none => simp
  | some x =>
    simp [← handlers.answer?_isSome_iff ⟨keyword, Text.strip x.text⟩ x.state]

/-- A sequence of items has a value exactly when every keyword in it is answered. -/
theorem Items.value_isSome_iff {handlers : Registry σ} (items : Items) (s : σ) :
    (items.value handlers s).isSome ↔ ∀ k ∈ items.keywords, handlers.Answers k := by
  -- Writing never fails, so that a value depends on the clauses alone.
  have write : ∀ (t : Text) (s : σ), (Rewriter.write t s).isSome ↔ True := fun _ _ => by
    simp [Rewriter.write]
  induction items generalizing s with
  | nil => simp [value, keywords, write]
  | plain c hc rest ih => simp [value, keywords, Rewriter.andThen_isSome_iff (write _) ih]
  | quoted q body hb rest ih => simp [value, keywords, Rewriter.andThen_isSome_iff (write _) ih]
  | bare k rest ih =>
    have hclause := Rewriter.answer_isSome_iff handlers k.text (write [])
    simp [value, keywords, Rewriter.andThen_isSome_iff hclause ih]
  | clause k c hc tail rest ihtail ih =>
    have htail := Rewriter.andThen_isSome_iff (write [c]) ihtail
    have hclause := Rewriter.answer_isSome_iff handlers k.text htail
    simp [value, keywords, Rewriter.andThen_isSome_iff hclause ih, or_imp, forall_and, and_assoc]

/-! ### Expanding -/

theorem expand_spelling_of_some {handlers : Registry σ} {items : Items} {state : σ}
    {w : Rewriting σ} (h : items.value handlers state = some w) :
    (expand handlers items.spelling state).result = .ok w.text ∧
      (expand handlers items.spelling state).dispatches.map Dispatch.call = w.calls ∧
      (expand handlers items.spelling state).state = w.state := by
  -- The draft starts empty, so what it holds at the end is the value.
  have hreal := items.realizes_events handlers 0 0 (Draft.start state)
  simp only [Draft.start, h] at hreal
  obtain ⟨d, hd, hext⟩ := hreal
  have hwritten : d.text = w.text := by simp [Draft.text, hext.written]
  have hcalls : d.log.reverse.map Dispatch.call = w.calls := by
    simpa [Draft.calls] using hext.calls
  simp only [expand, Outline.ofText_spelling, Draft.start, hd]
  exact ⟨by rw [hwritten], hcalls, hext.state⟩

theorem expand_spelling_of_none {handlers : Registry σ} {items : Items} {state : σ}
    (h : items.value handlers state = none) :
    ∃ failure, (expand handlers items.spelling state).result = .error failure := by
  have hreal := items.realizes_events handlers 0 0 (Draft.start state)
  simp only [Draft.start, h] at hreal
  obtain ⟨e, he⟩ := hreal
  exact ⟨_, by simp only [expand, Outline.ofText_spelling, Draft.start, he]; rfl⟩

/-- A text that no items spell is not expanded. -/
theorem expand_of_not_spelled (handlers : Registry σ) {text : Text} (state : σ)
    (h : ¬ ∃ items : Items, items.spelling = text) :
    ∃ failure, (expand handlers text state).result = .error failure := by
  rw [← Outline.refusal_eq_none_iff] at h
  obtain ⟨refusal, hrefusal⟩ := Option.ne_none_iff_exists'.1 h
  unfold expand
  simp only [hrefusal]
  split
  · exact ⟨_, rfl⟩
  · exact ⟨_, rfl⟩

/-- What is expanded is spelled by items that have a value. -/
theorem expand_ok_iff_value {handlers : Registry σ} {text : Text} {state : σ} {out : Text} :
    (expand handlers text state).result = .ok out ↔
      ∃ items : Items, items.spelling = text ∧
        ∃ w, items.value handlers state = some w ∧ w.text = out := by
  constructor
  · intro h
    -- A text that no items spell is refused, whatever the registry.
    by_cases hspelled : ∃ items : Items, items.spelling = text
    · obtain ⟨items, rfl⟩ := hspelled
      cases hvalue : items.value handlers state with
      | none =>
        obtain ⟨failure, hfail⟩ := expand_spelling_of_none hvalue
        rw [hfail] at h
        cases h
      | some w =>
        rw [(expand_spelling_of_some hvalue).1] at h
        cases h
        exact ⟨items, rfl, w, hvalue, rfl⟩
    · obtain ⟨failure, hfail⟩ := expand_of_not_spelled handlers state hspelled
      rw [hfail] at h
      cases h
  · rintro ⟨items, rfl, w, hvalue, rfl⟩
    exact (expand_spelling_of_some hvalue).1

/-- Expanding a text is reading it by the grammar and computing the value of what was read. A text
is expanded exactly when items spell it all of whose keywords are registered; these items are the
only ones that spell it; and their value is the result, made by the same calls and leaving the
handlers in the same state. Any other text is refused with a syntax error. -/
theorem expand_eq_value (handlers : Registry σ) (usable : handlers.Usable) (text : Text)
    (state : σ) :
    ((∃ out, (expand handlers text state).result = .ok out) ↔
      ∃ items : Items, items.spelling = text ∧ ∀ k ∈ items.keywords, k ∈ handlers.keys) ∧
    (∀ i j : Items, i.spelling = text → j.spelling = text → i = j) ∧
    (∀ items : Items, items.spelling = text → (∀ k ∈ items.keywords, k ∈ handlers.keys) →
      ∃ w, items.value handlers state = some w ∧
        (expand handlers text state).result = .ok w.text ∧
        (expand handlers text state).dispatches.map Dispatch.call = w.calls ∧
        (expand handlers text state).state = w.state) ∧
    ((¬ ∃ items : Items, items.spelling = text ∧ ∀ k ∈ items.keywords, k ∈ handlers.keys) →
      ∃ e, (expand handlers text state).result = .error (.malformed e)) := by
  -- With a usable registry a clause is answered exactly when its keyword is known.
  have hiff : (∃ out, (expand handlers text state).result = .ok out) ↔
      ∃ items : Items, items.spelling = text ∧ ∀ k ∈ items.keywords, k ∈ handlers.keys := by
    simp only [← Registry.answers_iff_mem_keys usable, ← Items.value_isSome_iff _ state,
      Option.isSome_iff_exists]
    constructor
    · rintro ⟨out, hout⟩
      obtain ⟨items, hspelling, w, hvalue, -⟩ := expand_ok_iff_value.1 hout
      exact ⟨items, hspelling, w, hvalue⟩
    · rintro ⟨items, hspelling, w, hvalue⟩
      exact ⟨w.text, expand_ok_iff_value.2 ⟨items, hspelling, w, hvalue, rfl⟩⟩
  refine ⟨hiff, ?_, ?_, ?_⟩
  · intro i j hi hj
    exact Items.spelling_injective (hi.trans hj.symm)
  · rintro items rfl hkeywords
    simp only [← Registry.answers_iff_mem_keys usable, ← Items.value_isSome_iff _ state,
      Option.isSome_iff_exists] at hkeywords
    obtain ⟨w, hvalue⟩ := hkeywords
    exact ⟨w, hvalue, expand_spelling_of_some hvalue⟩
  · intro hnone
    rw [← hiff] at hnone
    cases hresult : (expand handlers text state).result with
    | ok out => exact absurd ⟨out, hresult⟩ hnone
    | error failure =>
      obtain ⟨e, rfl⟩ := malformed_of_usable usable hresult
      exact ⟨e, rfl⟩

/-- A quoted brace, and a clause in the tail of another one. -/
theorem expand_eq_value_nested :
    (Registry.standard : Registry Unit).Usable ∧
      (expandStandard "'\x7d' \x7blimit \x7bd 1\x7d\x7d".toList).result =
        .ok "'\x7d' limit 1".toList := by
  obtain ⟨w, hvalue, hresult, -⟩ := (expand_eq_value Registry.standard Registry.usable_standard
    "'\x7d' \x7blimit \x7bd 1\x7d\x7d".toList ()).2.2.1
    (.quoted .single ['\x7d'] (by decide) (.plain ' ' (by decide)
      (.clause ⟨"limit".toList, by decide, List.all_eq_true.1 (by decide)⟩ ' ' (by decide)
        (.clause ⟨"d".toList, by decide, List.all_eq_true.1 (by decide)⟩ ' ' (by decide)
          (.plain '1' (by decide) .nil) .nil) .nil))) (by decide) (by decide)
  have hw : w = ⟨"'\x7d' limit 1".toList,
      [⟨"d".toList, "1".toList⟩, ⟨"limit".toList, "1".toList⟩], ()⟩ := by
    apply Option.some.inj
    rw [← hvalue]
    rfl
  subst hw
  exact ⟨Registry.usable_standard, hresult⟩

end EscapeClause
