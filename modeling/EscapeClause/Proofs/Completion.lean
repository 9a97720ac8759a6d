import EscapeClause.Proofs.Denotation
import EscapeClause.Proofs.Skeleton

/-!
# Wrong texts and incomplete ones

A text is refused either for something that it holds, and then it is refused alike whatever
follows it, or for something that is missing at its end, and then it can be completed. The cause
says which of the two it is (`Malformation.isFinal`).

A cause that is final comes from a step of the reader or from a keyword, and both stay when the
text goes on (`Outline.ofText_append_of_isFinal`, `Skeleton.find?_append`). Any other cause comes
from the place where the reader stands at the end. What it has read is a text of open levels, and
closing these from the inside out makes items of it (`Levels.closeWith`, `exists_completion`),
whose keywords only have to be registered (`Registry.withKeywords`).

The main statement is `error_append`.
-/

namespace EscapeClause

variable {σ : Type}

/-- Whether what follows a text cannot mend it: the text itself is wrong, not only incomplete. -/
def Malformation.isFinal : Malformation → Bool
  | unopenedClause => true
  | missingKeyword => true
  | unknownKeyword => true
  | unterminatedQuote => false
  | unterminatedClause => false

/-! ### Where causes come from -/

theorem Reader.isFinal_of_step {s : Reader} {c : Char} {refusal : Refusal}
    (h : s.step c = .error refusal) : refusal.cause.isFinal = true := by
  have hmove := move_step s c
  rw [h] at hmove
  cases hmove <;> rfl

theorem Reader.isFinal_of_missing? {s : Reader} {refusal : Refusal}
    (h : s.missing? = some refusal) : refusal.cause.isFinal = false := by
  unfold missing? at h
  split at h
  · cases h; rfl
  · cases h; rfl
  · cases h; rfl
  · obtain ⟨clause, -, rfl⟩ := Option.map_eq_some_iff.1 h
    rfl

/-- A refusal that is final is found on the way. -/
theorem Outline.feed_of_isFinal {t : Text} {refusal : Refusal}
    (h : (ofText t).refusal = some refusal) (hfinal : refusal.cause.isFinal = true) :
    (Reader.start.feed t).2 = .error refusal := by
  rcases cases_of_refusal h with hfeed | ⟨s, -, hmissing⟩
  · exact hfeed
  · rw [Reader.isFinal_of_missing? hmissing] at hfinal
    cases hfinal

/-- Any other refusal is found at the end of the text. -/
theorem Outline.exists_reader_of_not_isFinal {t : Text} {refusal : Refusal}
    (h : (ofText t).refusal = some refusal) (hfinal : refusal.cause.isFinal = false) :
    ∃ s, (Reader.start.feed t).2 = .ok s := by
  rcases cases_of_refusal h with hfeed | ⟨s, hfeed, -⟩
  · obtain ⟨-, c, -, s, -, -, hstep⟩ := Reader.exists_step_of_feed hfeed
    rw [Reader.isFinal_of_step hstep] at hfinal
    cases hfinal
  · exact ⟨s, hfeed⟩

/-! ### Wrong texts -/

/-- A final refusal stays whatever follows the text. -/
theorem Outline.ofText_append_of_isFinal {t : Text} {refusal : Refusal}
    (h : (ofText t).refusal = some refusal) (hfinal : refusal.cause.isFinal = true) (u : Text) :
    ofText (t ++ u) = ofText t := by
  have hfeed := feed_of_isFinal h hfinal
  unfold ofText
  rw [Reader.feed_append_of_error hfeed]

/-- The first clause of a text whose keyword is unknown is the first one of every longer text. -/
theorem Skeleton.find?_append {p : Closing → Bool} {t : Text} {c : Closing}
    (h : (ofText t).closings.find? p = some c) (u : Text) :
    (ofText (t ++ u)).closings.find? p = some c := by
  obtain ⟨more, hmore⟩ := Outline.events_isPrefix t u
  have hclosings : (ofText (t ++ u)).closings = (ofText t).closings ++ closingsOf more := by
    show closingsOf (Outline.ofText (t ++ u)).events = _
    rw [← hmore]
    exact closingsOf_append _ _
  rw [hclosings, List.find?_append, h]
  rfl

/-- A text is malformed for its first unknown keyword, or else for the verdict on it. -/
theorem Skeleton.Governs.malformed_iff {sk : Skeleton} {handlers : Registry σ} {text : Text}
    {expansion : Expansion σ} (h : sk.Governs handlers text expansion) {e : SyntaxError} :
    expansion.result = .error (.malformed e) ↔
      (∃ c, sk.closings.find? (!handlers.knows ·) = some c ∧
        .ofPosition .unknownKeyword text (c.clause.brace + 1) = e) ∨
      (sk.closings.find? (!handlers.knows ·) = none ∧
        ∃ refusal, sk.verdict = some refusal ∧ refusal.syntaxError text = e) := by
  obtain ⟨-, hresult⟩ := h
  -- An unknown keyword that closes comes before the verdict on the rest of the text.
  cases hfind : sk.closings.find? (!handlers.knows ·) with
  | some c =>
    simp only [hfind] at hresult
    simp [hresult]
  | none =>
    simp only [hfind] at hresult
    cases hverdict : sk.verdict with
    | none =>
      simp only [hverdict] at hresult
      obtain ⟨out, hout⟩ := hresult
      simp [hout]
    | some refusal =>
      simp only [hverdict] at hresult
      simp [hresult]

/-- A text that is refused for something it holds is refused alike whatever follows it. -/
theorem error_append_of_isFinal {handlers : Registry σ} (usable : handlers.Usable) {text : Text}
    {state : σ} {e : SyntaxError} (h : (expand handlers text state).result = .error (.malformed e))
    (hfinal : e.cause.isFinal = true) (suffix : Text) (state' : σ) :
    ∃ e', (expand handlers (text ++ suffix) state').result = .error (.malformed e') ∧
      e'.cause = e.cause ∧ e'.position = e.position := by
  have hlonger := Skeleton.governs_expand usable (text ++ suffix) state'
  rcases (Skeleton.governs_expand usable text state).malformed_iff.1 h with
    ⟨c, hfind, rfl⟩ | ⟨hfind, refusal, hverdict, rfl⟩
  · have hfind' := Skeleton.find?_append hfind suffix
    exact ⟨_, hlonger.malformed_iff.2 (.inl ⟨c, hfind', rfl⟩), rfl, rfl⟩
  · -- The outline of the longer text is the same, and so is its skeleton.
    have houtline := Outline.ofText_append_of_isFinal hverdict hfinal suffix
    have hskeleton : Skeleton.ofText (text ++ suffix) = Skeleton.ofText text :=
      Skeleton.ext (congrArg (fun o : Outline => closingsOf o.events) houtline)
        (congrArg Outline.refusal houtline)
    rw [hskeleton] at hlonger
    exact ⟨_, hlonger.malformed_iff.2 (.inr ⟨hfind, refusal, hverdict, rfl⟩), rfl, rfl⟩

/-! ### Incomplete texts -/

namespace Levels

/-- The items that levels are when these items are added to the innermost one and then all levels
are closed, the innermost one first. -/
def closeWith : Levels → Items → Items
  | outermost items, more => items.append more
  | within around k c hc tail, more => around.closeWith (.clause k c hc (tail.append more) .nil)

/-- One closing brace closes each clause that is open. -/
theorem spelling_closeWith (l : Levels) (more : Items) :
    (l.closeWith more).spelling =
      l.spelling ++ (more.spelling ++ List.replicate l.clauses.length '\x7d') := by
  induction l generalizing more with
  | outermost items => simp [closeWith, spelling, clauses]
  | within around k c hc tail ih =>
    rw [closeWith, ih]
    simp [spelling, clauses, Items.spelling, List.replicate_succ]

end Levels

/-- A text that a reader gets to the end of can be completed. -/
theorem exists_completion {t : Text} {s : Reader} (h : Reader.Reads t s) :
    ∃ (suffix : Text) (items : Items), items.spelling = t ++ suffix := by
  cases h with
  | plain l => exact ⟨_, l.closeWith .nil, l.spelling_closeWith .nil⟩
  | quoted l q body hb =>
    refine ⟨q.closer :: List.replicate l.clauses.length '\x7d',
      l.closeWith (.quoted q body hb .nil), ?_⟩
    rw [l.spelling_closeWith]
    simp [Items.spelling]
  | keyword l k hk =>
    by_cases hempty : k = []
    · -- Without a keyword the clause needs one first.
      subst hempty
      let any : Keyword := ⟨['k'], by simp, List.all_eq_true.1 rfl⟩
      refine ⟨any.text ++ '\x7d' :: List.replicate l.clauses.length '\x7d',
        l.closeWith (.bare any .nil), ?_⟩
      rw [l.spelling_closeWith]
      simp [Items.spelling]
    · refine ⟨'\x7d' :: List.replicate l.clauses.length '\x7d',
        l.closeWith (.bare ⟨k, hempty, hk⟩ .nil), ?_⟩
      rw [l.spelling_closeWith]
      simp [Items.spelling]

namespace Registry

/-- The registry with these keywords registered too; one that is not registered yet is echoed. -/
def withKeywords (handlers : Registry σ) (keywords : List Text) : Registry σ :=
  handlers.insertMany
    ((keywords.filter fun k => !handlers.contains k).map fun k => (k, .echo true))

theorem get?_withKeywords (handlers : Registry σ) (keywords : List Text) (k : Text) :
    (handlers.withKeywords keywords).get? k =
      if k ∈ keywords ∧ k ∉ handlers.keys then some (.echo true) else handlers.get? k := by
  rw [withKeywords, OrderedMap.get?_insertMany_const]
  refine if_congr ?_ rfl rfl
  simp [OrderedMap.contains_iff, Bool.eq_false_iff]

/-- What was registered stays. -/
theorem get?_withKeywords_of_mem {handlers : Registry σ} {k : Text} (hk : k ∈ handlers.keys)
    (keywords : List Text) : (handlers.withKeywords keywords).get? k = handlers.get? k := by
  rw [get?_withKeywords, if_neg fun h => h.2 hk]

theorem usable_iff {handlers : Registry σ} :
    handlers.Usable ↔ ∀ k handler, handlers.get? k = some handler → handler.isUsable = true := by
  rw [Usable, firstInert?_eq_none_iff]
  constructor
  · intro h k handler hget
    exact h _ (OrderedMap.mem_entries_of_get? hget)
  · rintro h ⟨k, handler⟩ hmem
    exact h k handler (OrderedMap.get?_of_mem_entries hmem)

theorem Usable.withKeywords {handlers : Registry σ} (usable : handlers.Usable)
    (keywords : List Text) : (handlers.withKeywords keywords).Usable := by
  rw [usable_iff] at usable ⊢
  intro k handler hget
  rw [get?_withKeywords] at hget
  split at hget
  · cases hget
    rfl
  · exact usable k handler hget

theorem mem_keys_withKeywords {handlers : Registry σ} {keywords : List Text} {k : Text}
    (hk : k ∈ keywords) : k ∈ (handlers.withKeywords keywords).keys := by
  rw [← OrderedMap.get?_isSome, get?_withKeywords]
  split
  · rfl
  · next h =>
    rw [OrderedMap.get?_isSome]
    by_contra hknown
    exact h ⟨hk, hknown⟩

end Registry

/-- What items spell is expanded once their keywords are registered. -/
theorem exists_expand_withKeywords {handlers : Registry σ} (usable : handlers.Usable)
    (items : Items) (state : σ) :
    ∃ out, (expand (handlers.withKeywords items.keywords) items.spelling state).result =
      .ok out := by
  have husable := usable.withKeywords items.keywords
  have hvalue := (items.value_isSome_iff state).2 fun k hk =>
    (Registry.answers_iff_mem_keys husable).2 (Registry.mem_keys_withKeywords hk)
  obtain ⟨w, hw⟩ := Option.isSome_iff_exists.1 hvalue
  exact ⟨w.text, expand_ok_iff_value.2 ⟨items, rfl, w, hw, rfl⟩⟩

/-- A text that is refused for something missing at its end can be completed. -/
theorem exists_expand_append {handlers : Registry σ} (usable : handlers.Usable) {text : Text}
    {state : σ} {e : SyntaxError} (h : (expand handlers text state).result = .error (.malformed e))
    (hfinal : e.cause.isFinal = false) :
    ∃ (suffix : Text) (keywords : List Text), ∀ state', ∃ out,
      (expand (handlers.withKeywords keywords) (text ++ suffix) state').result = .ok out := by
  rcases (Skeleton.governs_expand usable text state).malformed_iff.1 h with
    ⟨c, -, rfl⟩ | ⟨-, refusal, hverdict, rfl⟩
  · cases hfinal
  · -- The text was read to its end. Closing what is open there completes it, and the keywords of
    -- the completion are registered.
    obtain ⟨s, hfeed⟩ := Outline.exists_reader_of_not_isFinal hverdict hfinal
    have hreads : Reader.Reads text s := Reader.reads_feed Reader.reads_start hfeed
    obtain ⟨suffix, items, hspelling⟩ := exists_completion hreads
    refine ⟨suffix, items.keywords, fun state' => ?_⟩
    rw [← hspelling]
    exact exists_expand_withKeywords usable items state'

/-- The causes of refusals separate wrong texts from incomplete ones. A text with a final cause is
refused with the same cause at the same place whatever follows it. A text with any other cause has
a continuation that is expanded by a registry which keeps all bindings and has further keywords. -/
theorem error_append (handlers : Registry σ) (usable : handlers.Usable) {text : Text} {state : σ}
    {e : SyntaxError} (h : (expand handlers text state).result = .error (.malformed e)) :
    (e.cause.isFinal = true → ∀ (suffix : Text) (state' : σ),
      ∃ e', (expand handlers (text ++ suffix) state').result = .error (.malformed e') ∧
        e'.cause = e.cause ∧ e'.position = e.position) ∧
    (e.cause.isFinal = false → ∃ (suffix : Text) (extended : Registry σ),
      extended.Usable ∧ (∀ k ∈ handlers.keys, extended.get? k = handlers.get? k) ∧
        ∀ state', ∃ out, (expand extended (text ++ suffix) state').result = .ok out) := by
  constructor
  · intro hfinal suffix state'
    exact error_append_of_isFinal usable h hfinal suffix state'
  · intro hfinal
    obtain ⟨suffix, keywords, hout⟩ := exists_expand_append usable h hfinal
    refine ⟨suffix, handlers.withKeywords keywords, usable.withKeywords keywords, ?_, hout⟩
    intro k hk
    exact Registry.get?_withKeywords_of_mem hk keywords

/-- A quote that is never closed, in the tail of a clause with an unknown keyword. -/
theorem error_append_unterminated_quote :
    (Registry.standard : Registry Unit).Usable ∧
      (expandStandard "\x7btop 'a".toList).result =
        .error (.malformed (.ofPosition .unterminatedQuote "\x7btop 'a".toList 5)) ∧
      ∃ (suffix : Text) (extended : Registry Unit), extended.Usable ∧
        ∃ out, (expand extended ("\x7btop 'a".toList ++ suffix) ()).result = .ok out := by
  have hresult : (expandStandard "\x7btop 'a".toList).result =
      .error (.malformed (.ofPosition .unterminatedQuote "\x7btop 'a".toList 5)) := by rfl
  obtain ⟨suffix, extended, husable, -, hout⟩ :=
    (error_append Registry.standard Registry.usable_standard hresult).2 rfl
  exact ⟨Registry.usable_standard, hresult, suffix, extended, husable, hout ()⟩

end EscapeClause
