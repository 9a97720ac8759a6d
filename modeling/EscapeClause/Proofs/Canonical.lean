import EscapeClause.Proofs.Alike
import EscapeClause.Proofs.Trimming

/-!
# Canonical spelling

A handler is given all that there is to know about its clause. A handler that writes the clause
down again (`clauseText`) makes a canonical text: every argument tail is trimmed and stands behind
one space, or is gone if nothing is left of it (`Items.canonical`). The canonical text is expanded
like the text that it was made of, whatever is registered (`expand_rebuilt_alike`); in particular
writing it down again changes nothing.

Trimming a tail before its clauses are answered or after makes no difference
(`Items.answer_trim`), since only plain code points are trimmed, and what is trimmed before would
be trimmed after.
-/

namespace EscapeClause

variable {σ : Type}

/-! ### Trimmed items -/

namespace Items

def trimStart : Items → Items
  | plain c hc rest => if Text.isBlank c then rest.trimStart else plain c hc rest
  | items => items

def trimEnd : Items → Items
  | nil => nil
  | plain c hc rest =>
    match rest.trimEnd with
    | nil => if Text.isBlank c then nil else plain c hc nil
    | trimmed => plain c hc trimmed
  | quoted q body hb rest => quoted q body hb rest.trimEnd
  | bare k rest => bare k rest.trimEnd
  | clause k c hc tail rest => clause k c hc tail rest.trimEnd

def trim (items : Items) : Items := items.trimStart.trimEnd

theorem spelling_eq_nil_iff {items : Items} : items.spelling = [] ↔ items = nil := by
  constructor
  · intro h
    cases items with
    | nil => rfl
    | _ => cases h
  · rintro rfl
    rfl

theorem isBlank_closer (q : Quote) : Text.isBlank q.closer = false := by cases q <;> rfl

/-- The items are `trimmed` with white space around it, which is written as it is. -/
structure Pads (handlers : Registry σ) (before : Text) (trimmed : Items) (after : Text)
    (items : Items) : Prop where
  before_blank : ∀ c ∈ before, Text.isBlank c = true
  after_blank : ∀ c ∈ after, Text.isBlank c = true
  spelling_eq : items.spelling = before ++ trimmed.spelling ++ after
  value_eq : items.value handlers =
    (Rewriter.write before).andThen ((trimmed.value handlers).andThen (.write after))

namespace Pads

variable {handlers : Registry σ} {before after : Text} {items trimmed : Items}

theorem refl (items : Items) : Pads handlers [] items [] items where
  before_blank := by simp
  after_blank := by simp
  spelling_eq := by simp
  value_eq := by rw [Rewriter.write_nil_andThen, Rewriter.andThen_write_nil]

theorem trans {before' after' : Text} {inner : Items} (h : Pads handlers before trimmed after items)
    (h' : Pads handlers before' inner after' trimmed) :
    Pads handlers (before ++ before') inner (after' ++ after) items where
  before_blank := List.forall_mem_append.2 ⟨h.before_blank, h'.before_blank⟩
  after_blank := List.forall_mem_append.2 ⟨h'.after_blank, h.after_blank⟩
  spelling_eq := by rw [h.spelling_eq, h'.spelling_eq]; simp
  value_eq := by
    rw [h.value_eq, h'.value_eq, ← Rewriter.write_andThen_write, ← Rewriter.write_andThen_write]
    simp only [Rewriter.andThen_assoc]

/-- White space before the items. -/
theorem cons {c : Char} (hc : Text.isBlank c = true)
    (h : Pads handlers before trimmed after items) :
    Pads handlers (c :: before) trimmed after (.plain c (isPlain_of_isBlank hc) items) where
  before_blank := List.forall_mem_cons.2 ⟨hc, h.before_blank⟩
  after_blank := h.after_blank
  spelling_eq := by rw [spelling, h.spelling_eq]; rfl
  value_eq := by rw [value, h.value_eq, ← Rewriter.andThen_assoc, Rewriter.write_andThen_write]; rfl

/-- More items before those that have white space at their end. -/
theorem append (first : Items) (h : Pads handlers [] trimmed after items) :
    Pads handlers [] (first.append trimmed) after (first.append items) where
  before_blank := h.before_blank
  after_blank := h.after_blank
  spelling_eq := by rw [spelling_append, spelling_append, h.spelling_eq]; simp
  value_eq := by
    rw [value_append, value_append, h.value_eq, Rewriter.write_nil_andThen,
      Rewriter.write_nil_andThen, Rewriter.andThen_assoc]

/-- White space around nothing is all after it. -/
theorem of_nil (h : Pads handlers before nil after items) :
    Pads handlers [] nil (before ++ after) items where
  before_blank := by simp
  after_blank := List.forall_mem_append.2 ⟨h.before_blank, h.after_blank⟩
  spelling_eq := by rw [h.spelling_eq, spelling]; simp
  value_eq := by rw [h.value_eq, value]; rfl

end Pads

theorem exists_pads_trimStart (handlers : Registry σ) (items : Items) :
    ∃ before, Pads handlers before items.trimStart [] items := by
  induction items with
  | plain c hc rest ih =>
    rw [trimStart]
    split
    · next hblank =>
      obtain ⟨before, h⟩ := ih
      exact ⟨c :: before, h.cons hblank⟩
    · exact ⟨[], .refl _⟩
  -- Only a code point can be white space; every other item stands fast.
  | _ => exact ⟨[], .refl _⟩

theorem exists_pads_trimEnd (handlers : Registry σ) (items : Items) :
    ∃ after, Pads handlers [] items.trimEnd after items := by
  induction items with
  | nil => exact ⟨[], .refl nil⟩
  | plain c hc rest ih =>
    obtain ⟨after, h⟩ := ih
    have hkept := h.append (.plain c hc .nil)
    rw [trimEnd]
    split
    · next hnil =>
      -- Nothing is kept after the code point, so that it is at the end itself.
      rw [hnil] at h hkept
      split
      · next hblank => exact ⟨_, (h.cons hblank).of_nil⟩
      · exact ⟨after, hkept⟩
    · exact ⟨after, hkept⟩
  | quoted q body hb rest ih =>
    obtain ⟨after, h⟩ := ih
    exact ⟨after, h.append (.quoted q body hb .nil)⟩
  | bare k rest ih =>
    obtain ⟨after, h⟩ := ih
    exact ⟨after, h.append (.bare k .nil)⟩
  | clause k c hc tail rest _ ih =>
    obtain ⟨after, h⟩ := ih
    exact ⟨after, h.append (.clause k c hc tail .nil)⟩

theorem isBlank_of_mem_head?_trimStart (items : Items) :
    ∀ c ∈ items.trimStart.spelling.head?, Text.isBlank c = false := by
  induction items with
  | nil => simp [trimStart, spelling]
  | plain c hc rest ih =>
    rw [trimStart]
    split
    · exact ih
    · next hblank => simpa [spelling] using hblank
  -- Any other item starts with an opener or a brace.
  | quoted q body hb rest => cases q <;> simp [trimStart, spelling, Quote.opener] <;> rfl
  | bare k rest => rintro c ⟨⟩; rfl
  | clause k c hc tail rest => rintro c ⟨⟩; rfl

/-- What ends in a code point that is not white space still does with trimmed items after it. -/
theorem isBlank_of_mem_getLast?_append {t u : Text} {d : Char} (hd : Text.isBlank d = false)
    (hu : ∀ c ∈ u.getLast?, Text.isBlank c = false) :
    ∀ c ∈ (t ++ d :: u).getLast?, Text.isBlank c = false := by
  intro c hc
  rw [List.getLast?_append, List.getLast?_cons, Option.some_or] at hc
  -- The last code point is one of `u`, or `d` where `u` has none.
  cases hlast : u.getLast? with
  | none =>
    rw [hlast] at hc
    cases hc
    exact hd
  | some e =>
    rw [hlast] at hc hu
    cases hc
    exact hu _ rfl

theorem isBlank_of_mem_getLast?_trimEnd (items : Items) :
    ∀ c ∈ items.trimEnd.spelling.getLast?, Text.isBlank c = false := by
  induction items with
  | nil => simp [trimEnd, spelling]
  | plain c hc rest ih =>
    rw [trimEnd]
    split
    · split
      · simp [spelling]
      · next hblank => simpa [spelling] using hblank
    · next hne =>
      intro d hd
      -- What is kept after the code point ends the text in its place.
      have hspelling : rest.trimEnd.spelling ≠ [] := fun h => hne (spelling_eq_nil_iff.1 h)
      rw [spelling, List.getLast?_cons_of_ne_nil hspelling] at hd
      exact ih d hd
  | quoted q body hb rest ih =>
    exact isBlank_of_mem_getLast?_append (t := q.opener :: body) (isBlank_closer q) ih
  | bare k rest ih =>
    exact isBlank_of_mem_getLast?_append (t := '\x7b' :: k.text) (d := '\x7d') rfl ih
  | clause k c hc tail rest _ ih =>
    have h := isBlank_of_mem_getLast?_append (t := '\x7b' :: (k.text ++ c :: tail.spelling))
      (d := '\x7d') rfl ih
    simpa [trimEnd, spelling] using h

theorem exists_pads_trim (handlers : Registry σ) (items : Items) :
    ∃ before after, Pads handlers before items.trim after items := by
  obtain ⟨before, hstart⟩ := items.exists_pads_trimStart handlers
  obtain ⟨after, hend⟩ := items.trimStart.exists_pads_trimEnd handlers
  have h := hstart.trans hend
  rw [List.append_nil, List.append_nil] at h
  exact ⟨before, after, h⟩

/-- Trimming items is trimming what they spell. -/
theorem spelling_trim (items : Items) : items.trim.spelling = Text.strip items.spelling := by
  obtain ⟨before, hstart⟩ := items.exists_pads_trimStart (∅ : Registry Unit)
  obtain ⟨after, hend⟩ := items.trimStart.exists_pads_trimEnd (∅ : Registry Unit)
  -- What trimming the items leaves has no white space at its ends, so that trimming its text again
  -- changes nothing.
  have hends : Text.strip items.trim.spelling = items.trim.spelling := by
    refine Text.strip_eq_self_iff.2 ⟨?_, isBlank_of_mem_getLast?_trimEnd _⟩
    intro c hc
    have hhead : items.trimStart.trimEnd.spelling.head? = some c := hc
    refine isBlank_of_mem_head?_trimStart items c ?_
    rw [hend.spelling_eq, List.nil_append, List.head?_append, hhead]
    rfl
  have h := hstart.trans hend
  rw [← hends, h.spelling_eq, Text.strip_append_append h.before_blank h.after_blank]
  rfl

end Items

/-! ### Trimmed tails -/

/-- White space around a tail does not matter to the answer. -/
theorem Rewriter.answer_blank {handlers : Registry σ} {before after : Text}
    (hbefore : ∀ c ∈ before, Text.isBlank c = true) (hafter : ∀ c ∈ after, Text.isBlank c = true)
    (keyword : Text) (tail : Rewriter σ) :
    answer handlers keyword ((write before).andThen (tail.andThen (write after))) =
      answer handlers keyword tail := by
  funext s
  cases h : tail s with
  | none => simp [answer, andThen, write, h]
  | some x =>
    have hstrip := Text.strip_append_append hbefore hafter x.text
    rw [List.append_assoc] at hstrip
    simp [answer, andThen, write, h, hstrip]

/-- Trimming a tail before its clauses are answered gives the same answer as trimming it after. -/
theorem Items.answer_trim (handlers : Registry σ) (keyword : Text) {c : Char}
    (hc : Text.isBlank c = true) (tail : Items) :
    Rewriter.answer handlers keyword ((Rewriter.write [c]).andThen (tail.value handlers)) =
      Rewriter.answer handlers keyword (tail.trim.value handlers) := by
  obtain ⟨before, after, hpads⟩ := tail.exists_pads_trim handlers
  rw [hpads.value_eq, ← Rewriter.andThen_assoc, Rewriter.write_andThen_write]
  exact Rewriter.answer_blank (List.forall_mem_cons.2 ⟨hc, hpads.before_blank⟩)
    hpads.after_blank keyword _

/-! ### The canonical spelling -/

def clauseText (keyword args : Text) : Text :=
  if args = [] then '\x7b' :: keyword ++ ['\x7d']
  else '\x7b' :: keyword ++ ' ' :: args ++ ['\x7d']

namespace Items

/-- A clause with this tail before more items; one space goes before the tail. -/
def rebuilt (k : Keyword) : Items → Items → Items
  | nil, rest => bare k rest
  | tail, rest => clause k ' ' rfl tail rest

/-- The items with every argument tail trimmed and put behind one space. -/
def canonical : Items → Items
  | nil => nil
  | plain c hc rest => plain c hc rest.canonical
  | quoted q body hb rest => quoted q body hb rest.canonical
  | bare k rest => bare k rest.canonical
  | clause k _ _ tail rest => rebuilt k tail.canonical.trim rest.canonical

theorem spelling_rebuilt (k : Keyword) (tail rest : Items) :
    (rebuilt k tail rest).spelling = clauseText k.text tail.spelling ++ rest.spelling := by
  cases tail <;> simp [rebuilt, spelling, clauseText]

theorem value_rebuilt (handlers : Registry σ) (k : Keyword) (tail rest : Items) :
    (rebuilt k tail rest).value handlers =
      (Rewriter.answer handlers k.text (tail.value handlers)).andThen (rest.value handlers) := by
  -- The space before a tail is trimmed before the handler sees it.
  have hspace : ∀ r : Rewriter σ,
      Rewriter.answer handlers k.text ((Rewriter.write [' ']).andThen r) =
        Rewriter.answer handlers k.text r := by
    intro r
    have hblank : ∀ c ∈ [' '], Text.isBlank c = true := List.all_eq_true.1 rfl
    have h : Rewriter.answer handlers k.text
        ((Rewriter.write [' ']).andThen (r.andThen (.write []))) = _ :=
      Rewriter.answer_blank hblank (List.forall_mem_nil _) k.text r
    rwa [Rewriter.andThen_write_nil] at h
  cases tail with
  | nil => rfl
  | _ => exact congrArg (Rewriter.andThen · (rest.value handlers)) (hspace _)

/-- Canonical items have the same value, whatever is registered. -/
theorem value_canonical (handlers : Registry σ) (items : Items) :
    items.canonical.value handlers = items.value handlers := by
  induction items with
  | nil => rfl
  | plain c hc rest ih => rw [canonical, value, value, ih]
  | quoted q body hb rest ih => rw [canonical, value, value, ih]
  | bare k rest ih => rw [canonical, value, value, ih]
  | clause k c hc tail rest ihtail ih =>
    rw [canonical, value_rebuilt, ← answer_trim handlers k.text hc, ihtail, ih, value]

end Items

/-! ### Writing clauses down again -/

/-- The answer of a handler that writes its clause down again. -/
def rebuildClause (keyword args : Text) (state : σ) : Text × σ := (clauseText keyword args, state)

/-- A handler that writes its clause down again is registered for the keyword. -/
def Registry.Rebuilds (handlers : Registry σ) (keyword : Text) : Prop :=
  ∃ label, handlers.get? keyword = some (.custom label rebuildClause)

/-- The rewriter writes this text, and no call that it makes changes the state. -/
def Rewriter.Yields (r : Rewriter σ) (t : Text) : Prop :=
  ∀ s, ∃ calls, r s = some ⟨t, calls, s⟩

namespace Rewriter.Yields

theorem write (t : Text) : (Rewriter.write t : Rewriter σ).Yields t := fun _ => ⟨[], rfl⟩

theorem andThen {a b : Rewriter σ} {t u : Text} (ha : a.Yields t) (hb : b.Yields u) :
    (a.andThen b).Yields (t ++ u) := by
  intro s
  obtain ⟨calls, hfirst⟩ := ha s
  obtain ⟨more, hsecond⟩ := hb s
  exact ⟨calls ++ more, andThen_eq_some_iff.2 ⟨_, _, hfirst, hsecond, rfl⟩⟩

theorem answer {handlers : Registry σ} {keyword : Text} (h : handlers.Rebuilds keyword)
    {tail : Rewriter σ} {t : Text} (htail : tail.Yields t) :
    (Rewriter.answer handlers keyword tail).Yields (clauseText keyword (Text.strip t)) := by
  intro s
  obtain ⟨label, hget⟩ := h
  obtain ⟨calls, hs⟩ := htail s
  have hanswer : handlers.answer? ⟨keyword, Text.strip t⟩ s =
      some (clauseText keyword (Text.strip t), s) := by
    rw [Registry.answer?, hget]
    rfl
  exact ⟨_, answer_eq_some_iff.2 ⟨_, _, hs, hanswer, rfl⟩⟩

end Rewriter.Yields

/-- Where all clauses are written down again, the value of items is their canonical spelling. -/
theorem Items.yields_canonical {handlers : Registry σ} (items : Items)
    (h : ∀ k ∈ items.keywords, handlers.Rebuilds k) :
    (items.value handlers).Yields items.canonical.spelling := by
  induction items with
  | nil => exact .write []
  | plain c hc rest ih => exact (Rewriter.Yields.write [c]).andThen (ih h)
  | quoted q body hb rest ih =>
    have hregion := (Rewriter.Yields.write (q.opener :: body ++ [q.closer])).andThen (ih h)
    simpa [canonical, spelling, value] using hregion
  | bare k rest ih =>
    rw [keywords, List.forall_mem_cons] at h
    have hclause := (Rewriter.Yields.answer h.1 (.write [])).andThen (ih h.2)
    simpa [canonical, spelling, value, clauseText] using hclause
  | clause k c hc tail rest ihtail ih =>
    rw [keywords, List.forall_mem_cons, List.forall_mem_append] at h
    have htail := (Rewriter.Yields.write [c]).andThen (ihtail h.2.1)
    have hclause := (Rewriter.Yields.answer h.1 htail).andThen (ih h.2.2)
    -- The handler trims the tail that is rewritten, and rewriting has trimmed the tail of the
    -- items.
    rw [canonical, spelling_rebuilt, spelling_trim, ← Text.strip_cons hc]
    exact hclause

/-- Writing every clause down again makes a canonical text. Writing its clauses down again changes
nothing, and whatever is registered, it is expanded like the text that it was made of: the same
calls are made, and the outcome is the same text or a stop at the same unknown keyword. -/
theorem expand_rebuilt_alike (rebuilding : Registry σ) {text c : Text} {start : σ}
    (hrebuilds : ∀ items : Items, items.spelling = text →
      ∀ k ∈ items.keywords, rebuilding.Rebuilds k)
    (hc : (expand rebuilding text start).result = .ok c) :
    (expand rebuilding c start).result = .ok c ∧
      ∀ (τ : Type) (handlers : Registry τ), handlers.Usable → ∀ state : τ,
        SameOutcome handlers text c state := by
  obtain ⟨items, rfl, w, hvalue, rfl⟩ := expand_ok_iff_value.1 hc
  -- The output is the canonical text, which has the values of the original with any registry.
  have htext : w.text = items.canonical.spelling := by
    obtain ⟨calls, hcanonical⟩ := items.yields_canonical (hrebuilds items rfl) start
    rw [hvalue] at hcanonical
    rw [Option.some.inj hcanonical]
  rw [htext]
  refine ⟨?_, ?_⟩
  · rw [← items.value_canonical] at hvalue
    rw [(expand_spelling_of_some hvalue).1, htext]
  · intro τ handlers usable state
    exact Items.expand_alike (fun h => (items.value_canonical h).symm) usable state

/-- An unknown keyword that is a quote, in a tail with white space around it. -/
theorem expand_rebuilt_alike_quote :
    let rebuilding : Registry Unit :=
      .ofList (["ts", "'"].map fun k => (k.toList, .custom "Rebuild".toList rebuildClause))
    (∀ items : Items, items.spelling = "\x7bts  \x7b'\ta \x7d \x7d".toList →
      ∀ k ∈ items.keywords, rebuilding.Rebuilds k) ∧
    (expand rebuilding "\x7bts  \x7b'\ta \x7d \x7d".toList ()).result =
      .ok "\x7bts \x7b' a\x7d\x7d".toList ∧
    (Registry.standard : Registry Unit).Usable ∧
    SameOutcome (Registry.standard : Registry Unit) "\x7bts  \x7b'\ta \x7d \x7d".toList
      "\x7bts \x7b' a\x7d\x7d".toList () := by
  intro rebuilding
  have hrebuilds : ∀ items : Items, items.spelling = "\x7bts  \x7b'\ta \x7d \x7d".toList →
      ∀ k ∈ items.keywords, rebuilding.Rebuilds k := by
    intro items hspelling
    let quote : Items := .clause ⟨['\''], by decide, List.all_eq_true.1 rfl⟩ '\t' rfl
      (.plain 'a' rfl (.plain ' ' rfl .nil)) (.plain ' ' rfl .nil)
    let whole : Items := .clause ⟨"ts".toList, by decide, List.all_eq_true.1 rfl⟩ ' ' rfl
      (.plain ' ' rfl quote) .nil
    have hwhole : whole.spelling = "\x7bts  \x7b'\ta \x7d \x7d".toList := rfl
    obtain rfl : items = whole := Items.spelling_injective (hspelling.trans hwhole.symm)
    have hkeywords : whole.keywords = ["ts".toList, "'".toList] := rfl
    rw [hkeywords, List.forall_mem_cons, List.forall_mem_singleton]
    exact ⟨⟨_, rfl⟩, ⟨_, rfl⟩⟩
  have hresult : (expand rebuilding "\x7bts  \x7b'\ta \x7d \x7d".toList ()).result =
      .ok "\x7bts \x7b' a\x7d\x7d".toList := by rfl
  obtain ⟨-, halike⟩ := expand_rebuilt_alike rebuilding hrebuilds hresult
  exact ⟨hrebuilds, hresult, Registry.usable_standard,
    halike Unit Registry.standard Registry.usable_standard ()⟩

end EscapeClause
