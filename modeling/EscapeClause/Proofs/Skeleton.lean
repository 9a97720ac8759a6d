import Mathlib.Data.List.Dedup
import Mathlib.Data.List.TakeWhile
import EscapeClause.Proofs.Drafts
import EscapeClause.Proofs.Reading

/-!
# The skeleton of a text

What a registry can change about the expansion of a text is little. The clauses that close, the
order in which they close and the verdict on the text at the end are its `Skeleton`, which is
computed without any registry. A registry decides only how far the expansion gets along the
skeleton: to the first clause whose keyword it does not know, or to the end
(`Skeleton.Governs`). What handlers answer has no part in it, since no answer is read again.

The main statement is `existsUnique_skeleton`: each text has exactly one skeleton that governs all
its expansions, and a text whose keywords a registry knows is expanded in the same way by every
registry that agrees with that one.
-/

namespace EscapeClause

/-- The clauses of a text that close, and what is wrong with the text apart from its keywords. -/
@[ext] structure Skeleton where
  /-- The clauses that close, in closing order. -/
  closings : List Closing
  /-- Why and where the text is refused, if it is. -/
  verdict : Option Refusal
  /-- No registry has a say in the verdict. -/
  cause_ne : ∀ refusal ∈ verdict, refusal.cause ≠ .unknownKeyword

/-- An expansion of the text goes along the skeleton: it calls the handlers of the closing clauses
up to the first unknown keyword, and is refused there; without an unknown keyword it ends with the
verdict. -/
def Skeleton.Governs {σ : Type} (sk : Skeleton) (handlers : Registry σ) (text : Text)
    (e : Expansion σ) : Prop :=
  e.dispatches.map Dispatch.closing = sk.closings.takeWhile handlers.knows ∧
  match sk.closings.find? (!handlers.knows ·) with
  | some c =>
    e.result = .error (.malformed (.ofPosition .unknownKeyword text (c.clause.brace + 1)))
  | none =>
    match sk.verdict with
    | some refusal => e.result = .error (.malformed (refusal.syntaxError text))
    | none => ∃ out, e.result = .ok out

/-! ### Reading blames no keyword -/

theorem Reader.cause_of_step {s : Reader} {c : Char} {refusal : Refusal}
    (h : s.step c = .error refusal) : refusal.cause ≠ .unknownKeyword := by
  have hmove := move_step s c
  rw [h] at hmove
  cases hmove <;> simp

theorem Reader.cause_of_missing? {s : Reader} {refusal : Refusal}
    (h : s.missing? = some refusal) : refusal.cause ≠ .unknownKeyword := by
  unfold missing? at h
  split at h
  · cases h; simp
  · cases h; simp
  · cases h; simp
  · obtain ⟨clause, -, rfl⟩ := Option.map_eq_some_iff.1 h
    simp

theorem Outline.cause_of_refusal {t : Text} {refusal : Refusal}
    (h : (Outline.ofText t).refusal = some refusal) : refusal.cause ≠ .unknownKeyword := by
  rcases Outline.cases_of_refusal h with hfeed | ⟨s, -, hmissing⟩
  · obtain ⟨-, c, -, s, -, -, hstep⟩ := Reader.exists_step_of_feed hfeed
    exact Reader.cause_of_step hstep
  · exact Reader.cause_of_missing? hmissing

/-! ### One skeleton for all registries -/

def Skeleton.ofText (t : Text) : Skeleton where
  closings := closingsOf (Outline.ofText t).events
  verdict := (Outline.ofText t).refusal
  cause_ne _ h := Outline.cause_of_refusal h

variable {σ : Type}

/-- The skeleton of a text governs its expansions. -/
theorem Skeleton.governs_expand {handlers : Registry σ} (usable : handlers.Usable) (text : Text)
    (state : σ) : (ofText text).Governs handlers text (expand handlers text state) := by
  have hrun := Draft.applyAll_closings usable (.start state) (Outline.ofText text).events
  unfold Governs expand
  simp only [ofText]
  -- An unknown keyword ends the run at its closing; with none the refusal decides, if there is one.
  cases hfind : (closingsOf (Outline.ofText text).events).find? (!handlers.knows ·) with
  | some c =>
    simp only [hfind] at hrun
    obtain ⟨d, hd, hclosings⟩ := hrun
    simp only [hd]
    exact ⟨hclosings, rfl⟩
  | none =>
    simp only [hfind] at hrun
    obtain ⟨d, hd, hclosings⟩ := hrun
    simp only [hd]
    refine ⟨hclosings, ?_⟩
    cases (Outline.ofText text).refusal with
    | none => exact ⟨d.text, rfl⟩
    | some refusal => rfl

def Registry.echoing (keywords : List Text) : Registry σ where
  entries := keywords.dedup.map fun k => (k, .echo true)
  nodup := by simpa [Function.comp_def] using keywords.nodup_dedup

theorem Registry.usable_echoing (keywords : List Text) :
    (echoing keywords : Registry σ).Usable := by
  rw [Usable, firstInert?_eq_none_iff]
  simp [echoing, Handler.isUsable]

theorem Registry.knows_echoing {keywords : List Text} {c : Closing}
    (h : c.clause.keyword ∈ keywords) : (echoing keywords : Registry σ).knows c = true := by
  rw [knows_iff, OrderedMap.keys]
  simpa [echoing, Function.comp_def] using h

/-- Two skeletons that govern the same expansions are the same: a registry that knows the keywords
of both shows all there is to them. -/
theorem Skeleton.eq_of_governs {sk sk' : Skeleton} {text : Text}
    (h : ∀ (σ : Type) (handlers : Registry σ) (state : σ), handlers.Usable →
      sk.Governs handlers text (expand handlers text state))
    (h' : ∀ (σ : Type) (handlers : Registry σ) (state : σ), handlers.Usable →
      sk'.Governs handlers text (expand handlers text state)) : sk = sk' := by
  -- A registry that knows every keyword of both skeletons shows all their closings and verdicts.
  let keywords := (sk.closings ++ sk'.closings).map (·.clause.keyword)
  let handlers : Registry Unit := .echoing keywords
  have hknows : ∀ c ∈ sk.closings ++ sk'.closings, handlers.knows c = true := fun c hc =>
    Registry.knows_echoing (List.mem_map_of_mem hc)
  have hall : ∀ {s : Skeleton}, (∀ c ∈ s.closings, handlers.knows c = true) →
      s.closings.takeWhile handlers.knows = s.closings ∧
        s.closings.find? (!handlers.knows ·) = none := fun hs =>
    ⟨List.takeWhile_eq_self_iff.2 hs, List.find?_eq_none.2 fun c hc => by simp [hs c hc]⟩
  obtain ⟨htake, hfind⟩ := hall fun c hc => hknows c (List.mem_append_left _ hc)
  obtain ⟨htake', hfind'⟩ := hall fun c hc => hknows c (List.mem_append_right _ hc)
  obtain ⟨hclosings, hverdict⟩ := h Unit handlers () (Registry.usable_echoing _)
  obtain ⟨hclosings', hverdict'⟩ := h' Unit handlers () (Registry.usable_echoing _)
  rw [htake] at hclosings
  rw [htake'] at hclosings'
  simp only [hfind] at hverdict
  simp only [hfind'] at hverdict'
  refine Skeleton.ext (hclosings.symm.trans hclosings') ?_
  -- Both verdicts speak of the one result of that registry.
  cases hv : sk.verdict with
  | none =>
    cases hv' : sk'.verdict with
    | none => rfl
    | some refusal' =>
      simp only [hv] at hverdict
      simp only [hv'] at hverdict'
      obtain ⟨out, hout⟩ := hverdict
      rw [hout] at hverdict'
      cases hverdict'
  | some refusal =>
    simp only [hv] at hverdict
    cases hv' : sk'.verdict with
    | none =>
      simp only [hv'] at hverdict'
      obtain ⟨out, hout⟩ := hverdict'
      rw [hout] at hverdict
      cases hverdict
    | some refusal' =>
      simp only [hv', hverdict, Refusal.syntaxError, SyntaxError.ofPosition, Except.error.injEq,
        Failure.malformed.injEq, SyntaxError.mk.injEq, Int.natCast_inj] at hverdict'
      obtain ⟨hcause, hposition, -⟩ := hverdict'
      cases refusal
      cases refusal'
      simp_all

/-- What keeps an expansion from failing at a keyword: it succeeds, or fails for another reason. -/
theorem exists_applyAll_ok {handlers : Registry σ} {text : Text} {state : σ}
    (h : (∃ out, (expand handlers text state).result = .ok out) ∨
      ∃ e, (expand handlers text state).result = .error (.malformed e) ∧
        e.cause ≠ .unknownKeyword) :
    ∃ d, (Draft.start state).applyAll handlers (Outline.ofText text).events = .ok d := by
  cases hrun : (Draft.start state).applyAll handlers (Outline.ofText text).events with
  | ok d => exact ⟨d, rfl⟩
  | error f =>
    -- A fault is an inert handler or an unknown keyword, and `h` excludes both.
    obtain ⟨fault, d⟩ := f
    simp only [expand, hrun] at h
    rcases h with ⟨out, hout⟩ | ⟨e, he, hcause⟩
    · cases hout
    · cases fault with
      | inert label => cases he
      | unknownKeyword clause =>
        cases he
        exact absurd rfl hcause

/-- A registry that keeps all bindings of another, and may have more, expands alike whatever that
one does not refuse for a keyword. -/
theorem expand_eq_of_agree {h h' : Registry σ} (hagree : ∀ k ∈ h.keys, h'.get? k = h.get? k)
    {text : Text} {state : σ}
    (hknown : (∃ out, (expand h text state).result = .ok out) ∨
      ∃ e, (expand h text state).result = .error (.malformed e) ∧ e.cause ≠ .unknownKeyword) :
    expand h' text state = expand h text state := by
  obtain ⟨d, hd⟩ := exists_applyAll_ok hknown
  have hkeys := Draft.mem_keys_of_applyAll_ok hd
  have hcongr : (Draft.start state).applyAll h' (Outline.ofText text).events =
      (Draft.start state).applyAll h (Outline.ofText text).events :=
    Draft.applyAll_congr fun c hc => hagree _ (hkeys c hc)
  simp only [expand, hcongr]

/-- A text has one skeleton, whatever is registered and whatever handlers answer: it governs every
expansion of the text. So a text that a registry does not refuse for a keyword is expanded alike,
or refused alike, by every registry that keeps the bindings of that one. -/
theorem existsUnique_skeleton (text : Text) :
    (∃! sk : Skeleton, ∀ (σ : Type) (handlers : Registry σ) (state : σ), handlers.Usable →
      sk.Governs handlers text (expand handlers text state)) ∧
    ∀ (σ : Type) (h h' : Registry σ) (state : σ), (∀ k ∈ h.keys, h'.get? k = h.get? k) →
      ((∃ out, (expand h text state).result = .ok out) ∨
        ∃ e, (expand h text state).result = .error (.malformed e) ∧
          e.cause ≠ .unknownKeyword) →
      expand h' text state = expand h text state := by
  refine ⟨⟨Skeleton.ofText text, ?_, ?_⟩, ?_⟩
  · intro σ handlers state usable
    exact Skeleton.governs_expand usable text state
  · intro sk hsk
    exact Skeleton.eq_of_governs hsk fun σ handlers state usable =>
      Skeleton.governs_expand usable text state
  · intro σ h h' state hagree hknown
    exact expand_eq_of_agree hagree hknown

end EscapeClause
