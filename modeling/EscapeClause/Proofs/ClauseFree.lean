import EscapeClause.Proofs.SingleCall
import EscapeClause.Proofs.TwoPhase

/-!
# Texts without clauses

A text is clause free when all its quoted regions are closed and every brace in it is quoted
(`ClauseFree`). Such a text is its own expansion, whatever is registered, and no handler is called
(`ClauseFree.expand_eq`).

The handlers that the library brings make clause free text of clause free arguments
(`Handler.IsStock.clauseFree_process`): echoing puts an ordinary keyword before them, and a
rewritten scalar call cuts them only at places that are outside quoted regions. So what they
expand a text to is clause free, and expanding it again changes nothing
(`expand_fixed_of_stock`).
-/

namespace EscapeClause

variable {σ : Type}

/-! ### Quoted regions -/

def regionStep (region : Option Quote) (c : Char) : Option Quote :=
  match region with
  | some q => if c = q.closer then none else some q
  | none => Quote.ofOpener? c

/-- The quoted region that a place is in after a text. -/
def regionAfter (region : Option Quote) (t : Text) : Option Quote := t.foldl regionStep region

@[simp] theorem regionAfter_nil (region : Option Quote) : regionAfter region [] = region := rfl

@[simp] theorem regionAfter_cons (region : Option Quote) (c : Char) (t : Text) :
    regionAfter region (c :: t) = regionAfter (regionStep region c) t := rfl

theorem regionAfter_append (region : Option Quote) (s t : Text) :
    regionAfter region (s ++ t) = regionAfter (regionAfter region s) t := by
  simp [regionAfter, List.foldl_append]

/-- A cursor knows the quoted region that it is in; parentheses have no part in that. -/
theorem Cursor.quote_step (k : Cursor) (c : Char) : (k.step c).quote = regionStep k.quote c := by
  obtain ⟨quote, depth⟩ := k
  cases quote with
  | some q =>
    simp only [step, regionStep]
    split <;> rfl
  -- A parenthesis changes the depth alone.
  | none =>
    simp only [step, regionStep]
    cases Quote.ofOpener? c with
    | some q => rfl
    | none =>
      simp only
      split
      · rfl
      · split <;> rfl

theorem regionStep_plain {c : Char} (hc : isPlain c = true) : regionStep none c = none :=
  (isPlain_iff.1 hc).1

/-- Only its closer ends a region. -/
theorem regionStep_some_ne_none {q : Quote} {c : Char} (hc : c ≠ q.closer) :
    regionStep (some q) c = some q :=
  if_neg hc

theorem regionAfter_plain {t : Text} (ht : ∀ c ∈ t, isPlain c = true) :
    regionAfter none t = none := by
  induction t with
  | nil => rfl
  | cons c r ih =>
    rw [List.forall_mem_cons] at ht
    rw [regionAfter_cons, regionStep_plain ht.1]
    exact ih ht.2

theorem regionAfter_inside {q : Quote} {t : Text} (ht : q.closer ∉ t) :
    regionAfter (some q) t = some q := by
  induction t with
  | nil => rfl
  | cons c r ih =>
    rw [List.mem_cons, not_or] at ht
    rw [regionAfter_cons, regionStep_some_ne_none fun hc => ht.1 hc.symm]
    exact ih ht.2

/-! ### Clause free texts -/

/-- From a place in this region on, every region of the text is closed at the end and no brace
stands outside all regions. -/
structure ClauseFreeFrom (region : Option Quote) (t : Text) : Prop where
  closed : regionAfter region t = none
  not_brace : ∀ s c r, t = s ++ c :: r → regionAfter region s = none → c ≠ '\x7b' ∧ c ≠ '\x7d'

/-- All quoted regions of the text are closed, and no brace stands outside them. -/
abbrev ClauseFree (t : Text) : Prop := ClauseFreeFrom none t

theorem clauseFreeFrom_nil_iff {region : Option Quote} :
    ClauseFreeFrom region [] ↔ region = none := by
  constructor
  · intro h
    exact h.closed
  · rintro rfl
    exact ⟨rfl, fun s c r h => by simp at h⟩

theorem clauseFreeFrom_cons_iff {region : Option Quote} {c : Char} {t : Text} :
    ClauseFreeFrom region (c :: t) ↔
      (region = none → c ≠ '\x7b' ∧ c ≠ '\x7d') ∧ ClauseFreeFrom (regionStep region c) t := by
  constructor
  · rintro ⟨hclosed, hbraces⟩
    obtain ⟨hc, ht⟩ := Text.forall_place_cons_iff.1 hbraces
    exact ⟨hc, hclosed, ht⟩
  · rintro ⟨hc, hclosed, ht⟩
    exact ⟨hclosed, Text.forall_place_cons_iff.2 ⟨hc, ht⟩⟩

/-- Cutting a text outside all regions leaves the two parts clause free, and joining clause free
texts makes one. -/
theorem clauseFreeFrom_append_iff {region : Option Quote} {s t : Text}
    (hs : regionAfter region s = none) :
    ClauseFreeFrom region (s ++ t) ↔ ClauseFreeFrom region s ∧ ClauseFree t := by
  induction s generalizing region with
  | nil =>
    obtain rfl : region = none := hs
    simp [clauseFreeFrom_nil_iff]
  | cons c r ih =>
    rw [List.cons_append, clauseFreeFrom_cons_iff, clauseFreeFrom_cons_iff, ih hs, and_assoc]

/-- Code points that stand for themselves are clause free. -/
theorem clauseFree_of_plain {t : Text} (ht : ∀ c ∈ t, isPlain c = true) : ClauseFree t := by
  induction t with
  | nil => exact clauseFreeFrom_nil_iff.2 rfl
  | cons c r ih =>
    rw [List.forall_mem_cons] at ht
    refine clauseFreeFrom_cons_iff.2 ⟨fun _ => (isPlain_iff.1 ht.1).2, ?_⟩
    rw [regionStep_plain ht.1]
    exact ih ht.2

/-- The text is clause free with plain code points before it if it is without them. -/
theorem clauseFree_plain_append_iff {s t : Text} (hs : ∀ c ∈ s, isPlain c = true) :
    ClauseFree (s ++ t) ↔ ClauseFree t :=
  (clauseFreeFrom_append_iff (regionAfter_plain hs)).trans
    (and_iff_right (clauseFree_of_plain hs))

namespace ClauseFree

theorem append {s t : Text} (hs : ClauseFree s) (ht : ClauseFree t) : ClauseFree (s ++ t) :=
  (clauseFreeFrom_append_iff hs.closed).2 ⟨hs, ht⟩

/-- A closed quoted region is clause free whatever stands in it. -/
theorem quoted (q : Quote) (body : Text) (hb : q.closer ∉ body) :
    ClauseFree (q.opener :: body ++ [q.closer]) := by
  have hopener : q.opener ≠ '\x7b' ∧ q.opener ≠ '\x7d' := by cases q <;> decide
  have hregion : regionStep none q.opener = some q := Quote.ofOpener?_opener q
  refine clauseFreeFrom_cons_iff.2 ⟨fun _ => hopener, ?_⟩
  rw [List.append_eq, hregion]
  -- What is left starts inside the region, where braces are harmless.
  clear hopener hregion
  induction body with
  | nil =>
    have hclosed : regionStep (some q) q.closer = none := if_pos rfl
    rw [List.nil_append, clauseFreeFrom_cons_iff, hclosed]
    exact ⟨by simp, clauseFreeFrom_nil_iff.2 rfl⟩
  | cons c r ih =>
    rw [List.mem_cons, not_or] at hb
    rw [List.cons_append, clauseFreeFrom_cons_iff, regionStep_some_ne_none fun hc => hb.1 hc.symm]
    exact ⟨by simp, ih hb.2⟩

/-! ### Trimming, cutting and joining -/

/-- What closes no region can be taken away from the end. -/
theorem of_append {s t : Text} (h : ClauseFree (s ++ t))
    (hcloser : ∀ q : Quote, q.closer ∉ t) : ClauseFree s := by
  have hs : regionAfter none s = none := by
    cases hregion : regionAfter none s with
    | none => rfl
    | some q =>
      have hclosed := h.closed
      rw [regionAfter_append, hregion, regionAfter_inside (hcloser q)] at hclosed
      cases hclosed
  exact ((clauseFreeFrom_append_iff hs).1 h).1

theorem stripStart {t : Text} (h : ClauseFree t) : ClauseFree (Text.stripStart t) := by
  have hblank : ∀ c ∈ t.takeWhile Text.isBlank, isPlain c = true :=
    fun c hc => isPlain_of_isBlank (List.mem_takeWhile_imp hc)
  rw [← List.takeWhile_append_dropWhile (p := Text.isBlank) (l := t)] at h
  exact (clauseFree_plain_append_iff hblank).1 h

theorem stripEnd {t : Text} (h : ClauseFree t) : ClauseFree (Text.stripEnd t) := by
  have hblank : ∀ c ∈ (t.reverse.takeWhile Text.isBlank).reverse, Text.isBlank c = true :=
    fun c hc => List.mem_takeWhile_imp (List.mem_reverse.1 hc)
  have ht : t = Text.stripEnd t ++ (t.reverse.takeWhile Text.isBlank).reverse := by
    rw [Text.stripEnd, ← List.reverse_append, List.takeWhile_append_dropWhile,
      List.reverse_reverse]
  rw [ht] at h
  -- White space closes no region, so what is cut off stood outside of all.
  refine h.of_append ?_
  intro q hq
  have hcloser := hblank _ hq
  cases q <;> exact absurd hcloser (by decide)

theorem strip {t : Text} (h : ClauseFree t) : ClauseFree (Text.strip t) := h.stripStart.stripEnd

theorem join {separator : Text} (hseparator : ClauseFree separator) {parts : List Text}
    (h : ∀ part ∈ parts, ClauseFree part) : ClauseFree (Text.join separator parts) :=
  Text.join_induction (clauseFreeFrom_nil_iff.2 rfl) append hseparator h

end ClauseFree

/-- A text is cut into segments outside all regions only. -/
theorem clauseFree_segmentsFrom {k : Cursor} {t : Text} (h : ClauseFreeFrom k.quote t) :
    ∃ first rest, segmentsFrom k t = first :: rest ∧ ClauseFreeFrom k.quote first ∧
      ∀ segment ∈ rest, ClauseFree segment := by
  induction t generalizing k with
  | nil => exact ⟨[], [], rfl, h, by simp⟩
  | cons c r ih =>
    obtain ⟨hc, hr⟩ := clauseFreeFrom_cons_iff.1 h
    rw [← Cursor.quote_step] at hr
    rw [segmentsFrom]
    split
    · next hcuts =>
      -- A cut is made outside all regions, so what stands before it is closed.
      obtain rfl := Cursor.eq_start_of_cuts hcuts
      obtain rfl : c = ',' := by simpa [Cursor.cuts, Cursor.start] using hcuts
      obtain ⟨first, rest, heq, hfirst, hrest⟩ := ih hr
      refine ⟨[], first :: rest, by rw [← heq]; rfl, clauseFreeFrom_nil_iff.2 rfl, ?_⟩
      exact List.forall_mem_cons.2 ⟨hfirst, hrest⟩
    · obtain ⟨first, rest, heq, hfirst, hrest⟩ := ih hr
      rw [Cursor.quote_step] at hfirst
      exact ⟨c :: first, rest, by rw [heq]; rfl, clauseFreeFrom_cons_iff.2 ⟨hc, hfirst⟩, hrest⟩

theorem ClauseFree.fields {t : Text} (h : ClauseFree t) : ∀ field ∈ fields t, ClauseFree field := by
  intro field hfield
  obtain ⟨segment, hsegment, rfl⟩ := exists_segment_of_mem_fields hfield
  obtain ⟨first, rest, heq, hfirst, hrest⟩ := clauseFree_segmentsFrom (k := .start) h
  rw [segments, heq] at hsegment
  have hfree : ClauseFree segment := List.forall_mem_cons.2 ⟨hfirst, hrest⟩ segment hsegment
  exact hfree.strip

/-! ### Scalar calls -/

/-- The code points that do not stand for themselves. -/
def delimiters : List Char := ['\'', '"', '[', '\x7b', '\x7d']

/-- A class without delimiters is one of plain code points. -/
theorem isPlain_of_class {p : Char → Bool} (hp : delimiters.all (!p ·) = true) {c : Char}
    (hc : p c = true) : isPlain c = true := by
  have ne : ∀ d ∈ delimiters, c ≠ d := by
    rintro d hd rfl
    have hout := List.all_eq_true.1 hp c hd
    rw [hc] at hout
    cases hout
  refine isPlain_iff.2 ⟨?_, ne _ (by decide), ne _ (by decide)⟩
  rw [Quote.ofOpener?, if_neg (ne _ (by decide)), if_neg (ne _ (by decide)),
    if_neg (ne _ (by decide))]

namespace ScalarCall

theorem isPlain_of_isNameChar {c : Char} (hc : isNameChar c = true) : isPlain c = true :=
  isPlain_of_class (by decide) hc

theorem Writes.clauseFree_group {call : ScalarCall} {t : Text} (h : call.Writes t)
    (ht : ClauseFree t) : ClauseFree call.group := by
  rw [← h.spelling_eq, spelling, List.append_assoc] at ht
  have hrest := (clauseFree_plain_append_iff fun c hc =>
    isPlain_of_isNameChar (h.all_isNameChar c hc)).1 ht
  exact (clauseFree_plain_append_iff fun c hc => isPlain_of_isBlank (h.all_isBlank c hc)).1 hrest

/-- The parentheses of a clause free group are outside all regions. -/
theorem clauseFree_of_group {call : ScalarCall} {inner : Text} (h : ClauseFree call.group)
    (hinner : call.inner = some inner) : ClauseFree inner := by
  have hclose : ∀ q : Quote, q.closer ∉ [')'] := by
    intro q
    cases q <;> decide
  rw [group, hinner] at h
  have hopen : ClauseFree (['('] ++ (inner ++ [')'])) := h
  have hplain : ∀ c ∈ ['('], isPlain c = true := List.all_eq_true.1 rfl
  have hrest := (clauseFree_plain_append_iff hplain).1 hopen
  exact hrest.of_append hclose

theorem clauseFree_sqlite {call : ScalarCall} {t : Text} (h : call.Writes t)
    (ht : ClauseFree t) : ClauseFree call.sqlite := by
  have hgroup := h.clauseFree_group ht
  -- The group is clause free; each rewriting puts it behind a name, drops it or cuts it into
  -- fields.
  by_cases hrewritten : call.IsRewritten
  · rcases hrewritten with hrenamed | huser | hconcatenation
    · obtain ⟨entry, hentry, -, hsqlite⟩ := hrenamed.exists_entry
      have hname := List.all_eq_true.1 (renamedFunctions_sound entry hentry).2
      rw [hsqlite]
      exact (clauseFree_of_plain fun c hc => isPlain_of_isNameChar (hname c hc)).append hgroup
    · rw [huser.sqlite_eq]
      exact ClauseFree.quoted .single [] List.not_mem_nil
    · obtain ⟨inner, hinner, hsqlite⟩ := hconcatenation.exists_inner
      rw [hsqlite]
      have hseparator : ClauseFree " || ".toList :=
        clauseFree_of_plain (List.all_eq_true.1 rfl)
      exact hseparator.join (clauseFree_of_group hgroup hinner).fields
  · rw [sqlite_of_not_isRewritten hrewritten, h.spelling_eq]
    exact ht

end ScalarCall

theorem ClauseFree.sqliteCall {args : Text} (h : ClauseFree args) :
    ClauseFree (sqliteCall args) := by
  by_cases hcall : ∃ call : ScalarCall, call.Writes args
  · obtain ⟨call, hw⟩ := hcall
    rw [sqliteCall_of_writes hw]
    exact ScalarCall.clauseFree_sqlite hw h
  · rw [sqliteCall_of_not_writes (not_exists.1 hcall)]
    exact h

/-! ### Stock handlers -/

/-- A handler that the library brings. -/
def Handler.IsStock : Handler σ → Prop
  | echo _ => True
  | scalarFunction => True
  | custom _ _ => False
  | inert _ => False

def Registry.Stock (handlers : Registry σ) : Prop := ∀ e ∈ handlers.entries, e.2.IsStock

theorem Registry.stock_standard : (standard : Registry σ).Stock := by
  rw [Stock, entries_standard]
  simp [standardEntries, Handler.IsStock]

/-- Stock handlers make clause free text of clause free arguments. -/
theorem Handler.IsStock.clauseFree_process {handler : Handler σ} (hstock : handler.IsStock)
    {keyword args : Text} {state : σ} {answer : Text × σ} (hkeyword : ClauseFree keyword)
    (hargs : ClauseFree args) (h : handler.process keyword args state = some answer) :
    ClauseFree answer.1 := by
  cases handler with
  | echo includeKeyword =>
    cases h
    show ClauseFree (echoClause includeKeyword keyword args)
    rw [echoClause]
    split
    · exact hargs
    · split
      · exact hkeyword
      · have hspace : ClauseFree [' '] := clauseFree_of_plain (List.all_eq_true.1 rfl)
        exact hkeyword.append (hspace.append hargs)
  | scalarFunction =>
    cases h
    exact hargs.sqliteCall
  | custom label answer => exact hstock.elim
  | inert label => exact hstock.elim

/-! ### What stock handlers expand a text to -/

def Rewriter.ClauseFree (r : Rewriter σ) : Prop :=
  ∀ s w, r s = some w → EscapeClause.ClauseFree w.text

namespace Rewriter

theorem ClauseFree.write {t : Text} (ht : EscapeClause.ClauseFree t) :
    (write t : Rewriter σ).ClauseFree := by
  intro s w h
  cases h
  exact ht

theorem ClauseFree.andThen {first second : Rewriter σ} (hfirst : first.ClauseFree)
    (hsecond : second.ClauseFree) : (first.andThen second).ClauseFree := by
  intro s w h
  obtain ⟨a, ha, hrest⟩ := Option.bind_eq_some_iff.1 h
  obtain ⟨b, hb, rfl⟩ := Option.map_eq_some_iff.1 hrest
  exact (hfirst s a ha).append (hsecond a.state b hb)

theorem ClauseFree.answer {handlers : Registry σ} (hstock : handlers.Stock) {k : Keyword}
    (hk : IsOrdinary k.text) {tail : Rewriter σ} (htail : tail.ClauseFree) :
    (answer handlers k.text tail).ClauseFree := by
  intro s w h
  obtain ⟨a, ha, hrest⟩ := Option.bind_eq_some_iff.1 h
  obtain ⟨r, hr, rfl⟩ := Option.map_eq_some_iff.1 hrest
  obtain ⟨handler, hget, hprocess⟩ := Option.bind_eq_some_iff.1 hr
  have hhandler := hstock _ (OrderedMap.mem_entries_of_get? hget)
  have hkeyword := clauseFree_of_plain (isPlain_of_isOrdinary hk k.brace_not_mem)
  exact hhandler.clauseFree_process hkeyword (htail s a ha).strip hprocess

end Rewriter

/-- The value of items is clause free where all handlers are stock and all keywords ordinary. -/
theorem Items.clauseFree_value {handlers : Registry σ} (hstock : handlers.Stock) (items : Items)
    (hkeywords : ∀ k ∈ items.keywords, IsOrdinary k) : (items.value handlers).ClauseFree := by
  induction items with
  | nil => exact .write (clauseFreeFrom_nil_iff.2 rfl)
  | plain c hc rest ih =>
    have hplain : ClauseFree [c] := clauseFree_of_plain (by simpa using hc)
    exact (Rewriter.ClauseFree.write hplain).andThen (ih hkeywords)
  | quoted q body hb rest ih =>
    exact (Rewriter.ClauseFree.write (.quoted q body hb)).andThen (ih hkeywords)
  -- The keyword may be part of the answer, which is why it has to be ordinary.
  | bare k rest ih =>
    rw [keywords, List.forall_mem_cons] at hkeywords
    have hnil : ClauseFree [] := clauseFreeFrom_nil_iff.2 rfl
    exact (Rewriter.ClauseFree.answer hstock hkeywords.1 (.write hnil)).andThen (ih hkeywords.2)
  | clause k c hc tail rest ihtail ih =>
    rw [keywords, List.forall_mem_cons, List.forall_mem_append] at hkeywords
    have hblank : ClauseFree [c] := clauseFree_of_plain (by simpa using isPlain_of_isBlank hc)
    have htail := (Rewriter.ClauseFree.write hblank).andThen (ihtail hkeywords.2.1)
    exact (Rewriter.ClauseFree.answer hstock hkeywords.1 htail).andThen (ih hkeywords.2.2)

theorem clauseFree_of_expand {handlers : Registry σ} (hstock : handlers.Stock)
    (hordinary : ∀ k ∈ handlers.keys, IsOrdinary k) {text out : Text} {state : σ}
    (h : (expand handlers text state).result = .ok out) : ClauseFree out := by
  obtain ⟨items, -, w, hvalue, rfl⟩ := expand_ok_iff_value.1 h
  have hanswers := (items.value_isSome_iff state).1 (by rw [hvalue]; rfl)
  exact items.clauseFree_value hstock (fun k hk => hordinary k (hanswers k hk).mem_keys) _ _ hvalue

/-! ### Expanding a clause free text -/

def Mode.ofRegion (start : Nat) : Option Quote → Mode
  | none => .plain
  | some q => .quoted q start

/-- A reader of a clause free text comes upon code points that stand for themselves only. -/
theorem Reader.feed_of_clauseFreeFrom {region : Option Quote} {t : Text}
    (h : ClauseFreeFrom region t) (p start : Nat) (cs : List Clause) :
    feed ⟨p, .ofRegion start region, cs⟩ t =
      (t.map .write, .ok ⟨p + t.length, .plain, cs⟩) := by
  induction t generalizing region p start with
  | nil =>
    obtain rfl := clauseFreeFrom_nil_iff.1 h
    rfl
  | cons c r ih =>
    obtain ⟨hc, hr⟩ := clauseFreeFrom_cons_iff.1 h
    -- The reader's mode follows the region; only where a region was opened is new.
    have hstep : ∃ start', step ⟨p, .ofRegion start region, cs⟩ c =
        .ok (⟨p + 1, .ofRegion start' (regionStep region c), cs⟩, [.write c]) := by
      cases region with
      | some q =>
        by_cases hclose : c = q.closer
        · have hregion : regionStep (some q) c = none := if_pos hclose
          rw [hregion, hclose]
          exact ⟨start, step_closer⟩
        · rw [regionStep_some_ne_none hclose]
          exact ⟨start, step_quoted hclose⟩
      | none =>
        cases hq : Quote.ofOpener? c with
        | some q =>
          rw [Quote.ofOpener?_eq_some_iff.1 hq, regionStep, Quote.ofOpener?_opener]
          exact ⟨p, step_opener⟩
        | none =>
          have hplain : isPlain c = true := isPlain_iff.2 ⟨hq, hc rfl⟩
          rw [regionStep_plain hplain]
          exact ⟨start, step_plain hplain⟩
    obtain ⟨start', hstep⟩ := hstep
    rw [feed_cons_eq hstep (ih hr (p + 1) start')]
    simp [Nat.add_right_comm, Nat.add_assoc]

theorem ClauseFree.outline_eq {t : Text} (h : ClauseFree t) :
    Outline.ofText t = ⟨t.map .write, none⟩ := by
  have hfeed := Reader.feed_of_clauseFreeFrom h 0 0 []
  simp only [Mode.ofRegion] at hfeed
  simp [Outline.ofText, Reader.start, hfeed, Reader.missing?]

/-- Where a reader comes upon code points that stand for themselves only, no handler is called, and
the refusal of the text, if there is one, is the result. -/
theorem expand_of_events_eq_write {text t : Text} (h : (Outline.ofText text).events = t.map .write)
    (handlers : Registry σ) (state : σ) :
    expand handlers text state =
      ⟨match (Outline.ofText text).refusal with
        | some refusal => .error (.malformed (refusal.syntaxError text))
        | none => .ok t, [], state⟩ := by
  have hwrite : Realizes handlers (t.map .write) (.write t) := .write t
  obtain ⟨d, hd, hext⟩ := hwrite (.start state)
  have htext : d.text = t := by simp [Draft.text, hext.written, Draft.start]
  -- A log without calls is empty.
  have hcalls : d.log.map Dispatch.call = [] := by
    simpa [Draft.calls, Draft.start, ← List.map_reverse] using hext.calls
  have hlog : d.log = [] := List.map_eq_nil_iff.1 hcalls
  simp only [expand, h, hd, htext, hlog, hext.state]
  rfl

/-- A clause free text is its own expansion, and no handler is called. -/
theorem ClauseFree.expand_eq {t : Text} (h : ClauseFree t) (handlers : Registry σ) (state : σ) :
    expand handlers t state = ⟨.ok t, [], state⟩ := by
  rw [expand_of_events_eq_write (congrArg Outline.events h.outline_eq), h.outline_eq]

/-- What stock handlers with ordinary keywords expand a text to is clause free. So it is its own
expansion, whatever is registered then, and no handler is called. Expanding with the standard
registry twice is therefore expanding once. -/
theorem expand_fixed_of_stock (handlers : Registry σ) (hstock : handlers.Stock)
    (hordinary : ∀ k ∈ handlers.keys, IsOrdinary k) {text out : Text} {state : σ}
    (h : (expand handlers text state).result = .ok out) :
    ClauseFree out ∧
      (∀ (τ : Type) (other : Registry τ) (s : τ), expand other out s = ⟨.ok out, [], s⟩) ∧
      ∀ sql native, (expandStandard sql).result = .ok native →
        (expandStandard native).result = .ok native := by
  have hout := clauseFree_of_expand hstock hordinary h
  refine ⟨hout, ?_, ?_⟩
  · intro τ other s
    exact hout.expand_eq other s
  · intro sql native hnative
    have hfree := clauseFree_of_expand Registry.stock_standard (by decide) hnative
    rw [expandStandard, hfree.expand_eq]

/-- Quoted braces in a concatenation, one of them the answer of an inner clause. -/
theorem expand_fixed_of_stock_concatenation :
    (Registry.standard : Registry Unit).Stock ∧
      (∀ k ∈ (Registry.standard : Registry Unit).keys, IsOrdinary k) ∧
      (expandStandard "\x7bfn concat(a, '\x7d', \x7bd [\x7b]\x7d)\x7d".toList).result =
        .ok "a || '\x7d' || [\x7b]".toList ∧
      ClauseFree "a || '\x7d' || [\x7b]".toList ∧
      expandStandard "a || '\x7d' || [\x7b]".toList =
        ⟨.ok "a || '\x7d' || [\x7b]".toList, [], ()⟩ := by
  have hresult : (expandStandard
      "\x7bfn concat(a, '\x7d', \x7bd [\x7b]\x7d)\x7d".toList).result =
        .ok "a || '\x7d' || [\x7b]".toList := by rfl
  obtain ⟨hfree, hfixed, -⟩ :=
    expand_fixed_of_stock Registry.standard Registry.stock_standard (by decide) hresult
  exact ⟨Registry.stock_standard, by decide, hresult, hfree, hfixed Unit Registry.standard ()⟩

end EscapeClause
