import EscapeClause.Proofs.ClauseFree
import EscapeClause.Proofs.Trimming

/-!
# What echoing keeps

Handlers that echo their clause move no content: they take away braces, white space outside quoted
regions and the keywords that they are told to drop, and they put in one space at most. So the
text that they expand and the text that comes out are the same but for these
(`expand_conserves`), and the quoted regions pass through untouched and in order.

The comparison is made after erasing a class of code points outside quoted regions
(`eraseOutside`). Erasing goes along with every way in which the value of items is put together,
since all the texts that are put together close their regions: what comes after them is outside all
regions before and after the expansion.
-/

namespace EscapeClause

variable {σ : Type}

/-! ### Erasing outside quoted regions -/

/-- The text without the code points of a class that stand outside all quoted regions. The text
starts in the given region. -/
def eraseOutside (p : Char → Bool) : Option Quote → Text → Text
  | _, [] => []
  | some q, c :: t => c :: eraseOutside p (regionStep (some q) c) t
  | none, c :: t =>
    if p c then eraseOutside p (regionStep none c) t else c :: eraseOutside p (regionStep none c) t

theorem eraseOutside_append (p : Char → Bool) (region : Option Quote) (s t : Text) :
    eraseOutside p region (s ++ t) =
      eraseOutside p region s ++ eraseOutside p (regionAfter region s) t := by
  induction s generalizing region with
  | nil => cases region <;> rfl
  | cons c r ih =>
    cases region with
    | some q => simp [eraseOutside, ih]
    | none =>
      simp only [List.cons_append, eraseOutside, regionAfter_cons, ih]
      split <;> rfl

/-- A code point of the class that opens no region is erased. -/
theorem eraseOutside_cons_of_class {p : Char → Bool} {c : Char} (hp : p c = true)
    (hc : regionStep none c = none) (t : Text) :
    eraseOutside p none (c :: t) = eraseOutside p none t := by
  rw [eraseOutside, if_pos hp, hc]

/-- After a text that closes its regions, erasing starts anew. -/
theorem eraseOutside_closed_append (p : Char → Bool) {s : Text} (hs : regionAfter none s = none)
    (t : Text) : eraseOutside p none (s ++ t) = eraseOutside p none s ++ eraseOutside p none t := by
  rw [eraseOutside_append, hs]

/-- Nothing is left of a text of the class that opens no region. -/
theorem eraseOutside_of_forall {p : Char → Bool} {s : Text} (hp : ∀ c ∈ s, p c = true)
    (hs : ∀ c ∈ s, regionStep none c = none) : eraseOutside p none s = [] := by
  induction s with
  | nil => rfl
  | cons c r ih =>
    rw [List.forall_mem_cons] at hp hs
    rw [eraseOutside_cons_of_class hp.1 hs.1]
    exact ih hp.2 hs.2

/-- Whether braces are in the class makes no difference to a clause free text. -/
theorem eraseOutside_congr {p p' : Char → Bool}
    (hp : ∀ c, c ≠ '\x7b' → c ≠ '\x7d' → p c = p' c) {region : Option Quote} {t : Text}
    (ht : ClauseFreeFrom region t) : eraseOutside p region t = eraseOutside p' region t := by
  induction t generalizing region with
  | nil => cases region <;> rfl
  | cons c r ih =>
    obtain ⟨hc, hr⟩ := clauseFreeFrom_cons_iff.1 ht
    cases region with
    | some q => rw [eraseOutside, eraseOutside, ih hr]
    | none => rw [eraseOutside, eraseOutside, ih hr, hp c (hc rfl).1 (hc rfl).2]

/-! ### The quoted regions of a text -/

/-- The quoted regions of a text, with their delimiters, in order. The text starts outside all
regions or in the one of which this much has been seen. -/
def quotedRegionsFrom : Option (Quote × Text) → Text → List Text
  | none, [] => []
  | some (_, seen), [] => [seen]
  | none, c :: t =>
    match Quote.ofOpener? c with
    | some q => quotedRegionsFrom (some (q, [c])) t
    | none => quotedRegionsFrom none t
  | some (q, seen), c :: t =>
    if c = q.closer then (seen ++ [c]) :: quotedRegionsFrom none t
    else quotedRegionsFrom (some (q, seen ++ [c])) t

def quotedRegions (t : Text) : List Text := quotedRegionsFrom none t

/-- A region that is open is followed by the text as the places in it are. -/
theorem quotedRegionsFrom_append {o : Option (Quote × Text)} {s : Text}
    (hs : regionAfter (o.map Prod.fst) s = none) (t : Text) :
    quotedRegionsFrom o (s ++ t) = quotedRegionsFrom o s ++ quotedRegions t := by
  induction s generalizing o with
  | nil =>
    obtain rfl : o = none := by simpa using hs
    rfl
  | cons c r ih =>
    rw [regionAfter_cons] at hs
    match o with
    | none =>
      rw [Option.map_none, regionStep] at hs
      rw [List.cons_append, quotedRegionsFrom, quotedRegionsFrom]
      -- An opener begins a region of which it is the first code point.
      cases hq : Quote.ofOpener? c with
      | none => exact ih (by rw [hq] at hs; exact hs)
      | some q => exact ih (by rw [hq] at hs; exact hs)
    | some (q, seen) =>
      rw [Option.map_some] at hs
      rw [List.cons_append, quotedRegionsFrom, quotedRegionsFrom]
      -- Here a region ends and is listed, or it goes on.
      by_cases hc : c = q.closer
      · rw [regionStep, if_pos hc] at hs
        rw [if_pos hc, if_pos hc, ih (o := none) hs, List.cons_append]
      · rw [regionStep_some_ne_none hc] at hs
        rw [if_neg hc, if_neg hc]
        exact ih hs

theorem quotedRegions_append {s : Text} (hs : regionAfter none s = none) (t : Text) :
    quotedRegions (s ++ t) = quotedRegions s ++ quotedRegions t :=
  quotedRegionsFrom_append (o := none) hs t

theorem quotedRegions_cons {c : Char} (hc : Quote.ofOpener? c = none) (t : Text) :
    quotedRegions (c :: t) = quotedRegions t := by
  simp only [quotedRegions, quotedRegionsFrom, hc]

/-- Code points that open nothing are in no region. -/
theorem quotedRegions_plain {s : Text} (hs : ∀ c ∈ s, isPlain c = true) :
    quotedRegions s = [] := by
  induction s with
  | nil => rfl
  | cons c r ih =>
    rw [List.forall_mem_cons] at hs
    rw [quotedRegions_cons (isPlain_iff.1 hs.1).1, ih hs.2]

theorem quotedRegionsFrom_inside {q : Quote} {body : Text} (hb : q.closer ∉ body) (seen : Text) :
    quotedRegionsFrom (some (q, seen)) (body ++ [q.closer]) = [seen ++ body ++ [q.closer]] := by
  induction body generalizing seen with
  | nil => simp [quotedRegionsFrom]
  | cons c r ih =>
    rw [List.mem_cons, not_or] at hb
    rw [List.cons_append, quotedRegionsFrom, if_neg fun hc => hb.1 hc.symm, ih hb.2]
    simp

/-- A quoted region is the one region in it. -/
theorem quotedRegions_quoted {q : Quote} {body : Text} (hb : q.closer ∉ body) :
    quotedRegions (q.opener :: body ++ [q.closer]) = [q.opener :: body ++ [q.closer]] := by
  rw [List.cons_append, quotedRegions, quotedRegionsFrom, Quote.ofOpener?_opener]
  exact quotedRegionsFrom_inside hb [q.opener]

/-- Erasing outside the regions leaves the regions. -/
theorem quotedRegionsFrom_eraseOutside {p : Char → Bool}
    (hp : ∀ c, p c = true → Quote.ofOpener? c = none) (o : Option (Quote × Text)) (t : Text) :
    quotedRegionsFrom o (eraseOutside p (o.map Prod.fst) t) = quotedRegionsFrom o t := by
  induction t generalizing o with
  | nil => rcases o with _ | ⟨q, seen⟩ <;> rfl
  | cons c r ih =>
    match o with
    | none =>
      rw [Option.map_none, eraseOutside, regionStep]
      by_cases hc : p c = true
      · -- What is erased would not have opened a region.
        rw [if_pos hc, hp c hc, quotedRegionsFrom, hp c hc]
        exact ih none
      · rw [if_neg hc, quotedRegionsFrom, quotedRegionsFrom]
        cases Quote.ofOpener? c with
        | none => exact ih none
        | some q => exact ih (some (q, [c]))
    | some (q, seen) =>
      rw [Option.map_some, eraseOutside, quotedRegionsFrom, quotedRegionsFrom]
      by_cases hc : c = q.closer
      · rw [if_pos hc, if_pos hc, regionStep, if_pos hc]
        exact congrArg _ (ih none)
      · rw [if_neg hc, if_neg hc, regionStep_some_ne_none hc]
        exact ih (some (q, seen ++ [c]))

theorem quotedRegions_eraseOutside {p : Char → Bool}
    (hp : ∀ c, p c = true → Quote.ofOpener? c = none) (t : Text) :
    quotedRegions (eraseOutside p none t) = quotedRegions t :=
  quotedRegionsFrom_eraseOutside hp none t

/-! ### Clauses and their parts -/

theorem regionStep_brace : regionStep none '\x7b' = none := rfl

theorem regionStep_close : regionStep none '\x7d' = none := rfl

theorem regionAfter_cons_of_blank {c : Char} (hc : Text.isBlank c = true) (t : Text) :
    regionAfter none (c :: t) = regionAfter none t := by
  rw [regionAfter_cons, regionStep_plain (isPlain_of_isBlank hc)]

section Parts

variable {keyword t : Text} (hkeyword : ∀ c ∈ keyword, isPlain c = true)
  (ht : regionAfter none t = none) (rest : Text)

include hkeyword ht

theorem regionAfter_clause :
    regionAfter none ('\x7b' :: (keyword ++ (t ++ '\x7d' :: rest))) = regionAfter none rest := by
  rw [regionAfter_cons, regionStep_brace, regionAfter_append, regionAfter_plain hkeyword,
    regionAfter_append, ht, regionAfter_cons, regionStep_close]

theorem quotedRegions_clause :
    quotedRegions ('\x7b' :: (keyword ++ (t ++ '\x7d' :: rest))) =
      quotedRegions t ++ quotedRegions rest := by
  rw [quotedRegions_cons regionStep_brace, quotedRegions_append (regionAfter_plain hkeyword),
    quotedRegions_plain hkeyword, quotedRegions_append ht, quotedRegions_cons regionStep_close,
    List.nil_append]

/-- Where braces are erased, a clause leaves its keyword and its tail. -/
theorem eraseOutside_clause {p : Char → Bool} (hopen : p '\x7b' = true)
    (hclose : p '\x7d' = true) :
    eraseOutside p none ('\x7b' :: (keyword ++ (t ++ '\x7d' :: rest))) =
      eraseOutside p none keyword ++ eraseOutside p none t ++ eraseOutside p none rest := by
  rw [eraseOutside_cons_of_class hopen regionStep_brace,
    eraseOutside_closed_append p (regionAfter_plain hkeyword), eraseOutside_closed_append p ht,
    eraseOutside_cons_of_class hclose regionStep_close, List.append_assoc]

end Parts

/-! ### Spelling without keywords -/

/-- What a keyword leaves of itself when this class of keywords is left out. -/
def keptKeyword (drops : Text → Bool) (keyword : Text) : Text :=
  if drops keyword then [] else keyword

/-- The text that a sequence of items derives, with this class of keywords left out. -/
def Items.spellingWithout (drops : Text → Bool) : Items → Text
  | nil => []
  | plain c _ rest => c :: rest.spellingWithout drops
  | quoted q body _ rest => q.opener :: (body ++ q.closer :: rest.spellingWithout drops)
  | bare k rest => '\x7b' :: (keptKeyword drops k.text ++ '\x7d' :: rest.spellingWithout drops)
  | clause k c _ tail rest =>
    '\x7b' :: (keptKeyword drops k.text ++
      c :: (tail.spellingWithout drops ++ '\x7d' :: rest.spellingWithout drops))

theorem isPlain_of_mem_keptKeyword (drops : Text → Bool) {k : Keyword} (hk : IsOrdinary k.text) :
    ∀ c ∈ keptKeyword drops k.text, isPlain c = true := by
  intro c hc
  rw [keptKeyword] at hc
  split at hc
  · cases hc
  · exact isPlain_of_isOrdinary hk k.brace_not_mem c hc

namespace Items

theorem spellingWithout_nothing (items : Items) :
    items.spellingWithout (fun _ => false) = items.spelling := by
  induction items with
  | nil => rfl
  | plain c hc rest ih => rw [spellingWithout, ih, spelling]
  | quoted q body hb rest ih => rw [spellingWithout, ih, spelling]
  | bare k rest ih => rw [spellingWithout, ih, spelling]; rfl
  | clause k c hc tail rest ihtail ih => rw [spellingWithout, ihtail, ih, spelling]; rfl

def quotes : Items → List Text
  | nil => []
  | plain _ _ rest => rest.quotes
  | quoted q body _ rest => (q.opener :: body ++ [q.closer]) :: rest.quotes
  | bare _ rest => rest.quotes
  | clause _ _ _ tail rest => tail.quotes ++ rest.quotes

/-- The text of a quoted region, and then more. -/
theorem quoted_append (q : Quote) (body t : Text) :
    q.opener :: (body ++ q.closer :: t) = (q.opener :: body ++ [q.closer]) ++ t := by
  simp

/-- Ordinary keywords open no region, left out or not. -/
theorem regionAfter_spellingWithout (drops : Text → Bool) (items : Items)
    (h : ∀ k ∈ items.keywords, IsOrdinary k) :
    regionAfter none (items.spellingWithout drops) = none := by
  induction items with
  | nil => rfl
  | plain c hc rest ih =>
    rw [spellingWithout, regionAfter_cons, regionStep_plain hc]
    exact ih h
  | quoted q body hb rest ih =>
    rw [spellingWithout, quoted_append, regionAfter_append, (ClauseFree.quoted q body hb).closed]
    exact ih h
  | bare k rest ih =>
    rw [keywords, List.forall_mem_cons] at h
    have hclause := regionAfter_clause (t := []) (isPlain_of_mem_keptKeyword drops h.1) rfl
    exact (hclause _).trans (ih h.2)
  -- The keyword is ordinary, the white space opens nothing, and the tail closes all that it opens.
  | clause k c hc tail rest ihtail ih =>
    rw [keywords, List.forall_mem_cons, List.forall_mem_append] at h
    have htail : regionAfter none (c :: tail.spellingWithout drops) = none :=
      (regionAfter_cons_of_blank hc _).trans (ihtail h.2.1)
    have hclause := regionAfter_clause (isPlain_of_mem_keptKeyword drops h.1) htail
    exact (hclause _).trans (ih h.2.2)

/-- Leaving out ordinary keywords leaves the quoted regions. -/
theorem quotedRegions_spellingWithout (drops : Text → Bool) (items : Items)
    (h : ∀ k ∈ items.keywords, IsOrdinary k) :
    quotedRegions (items.spellingWithout drops) = items.quotes := by
  induction items with
  | nil => rfl
  | plain c hc rest ih =>
    rw [spellingWithout, quotedRegions_cons (isPlain_iff.1 hc).1]
    exact ih h
  -- This is the one item that adds a region.
  | quoted q body hb rest ih =>
    rw [spellingWithout, quoted_append,
      quotedRegions_append (ClauseFree.quoted q body hb).closed, quotedRegions_quoted hb, ih h,
      quotes, List.singleton_append]
  | bare k rest ih =>
    rw [keywords, List.forall_mem_cons] at h
    have hclause := quotedRegions_clause (t := []) (isPlain_of_mem_keptKeyword drops h.1)
      rfl (rest.spellingWithout drops)
    exact hclause.trans (ih h.2)
  | clause k c hc tail rest ihtail ih =>
    rw [keywords, List.forall_mem_cons, List.forall_mem_append] at h
    have hblank := isPlain_of_isBlank hc
    have htail : regionAfter none (c :: tail.spellingWithout drops) = none :=
      (regionAfter_cons_of_blank hc _).trans (tail.regionAfter_spellingWithout drops h.2.1)
    have hclause := quotedRegions_clause (isPlain_of_mem_keptKeyword drops h.1) htail
      (rest.spellingWithout drops)
    rw [quotedRegions_cons (isPlain_iff.1 hblank).1, ihtail h.2.1, ih h.2.2] at hclause
    exact hclause

end Items

/-! ### Handlers that echo -/

/-- The handlers do nothing but echo their clauses. -/
def Registry.OnlyEchoes (handlers : Registry σ) : Prop :=
  ∀ e ∈ handlers.entries, ∃ includeKeyword, e.2 = .echo includeKeyword

/-- Whether a keyword is registered to be left out. -/
def Registry.drops (handlers : Registry σ) (keyword : Text) : Bool :=
  match handlers.get? keyword with
  | some (.echo false) => true
  | _ => false

theorem Registry.OnlyEchoes.stock {handlers : Registry σ} (h : handlers.OnlyEchoes) :
    handlers.Stock := by
  intro e he
  obtain ⟨includeKeyword, hecho⟩ := h e he
  rw [hecho]
  trivial

/-- What an echoing registry answers. -/
theorem Registry.OnlyEchoes.answer {handlers : Registry σ} (h : handlers.OnlyEchoes) {call : Call}
    {state : σ} {r : Text × σ} (hanswer : handlers.answer? call state = some r) :
    r = (echoClause (!handlers.drops call.keyword) call.keyword call.args, state) := by
  obtain ⟨handler, hget, hprocess⟩ := Option.bind_eq_some_iff.1 hanswer
  obtain ⟨includeKeyword, hecho⟩ := h _ (OrderedMap.mem_entries_of_get? hget)
  obtain rfl : handler = .echo includeKeyword := hecho
  rw [drops, hget]
  cases includeKeyword <;> exact (Option.some.inj hprocess).symm

theorem eraseOutside_blank {s : Text} (hs : ∀ c ∈ s, Text.isBlank c = true) :
    eraseOutside Text.isBlank none s = [] :=
  eraseOutside_of_forall hs fun c hc => regionStep_plain (isPlain_of_isBlank (hs c hc))

/-- Trimming takes away what erasing white space takes away, since the regions are closed. -/
theorem ClauseFree.eraseOutside_strip {t : Text} (ht : ClauseFree t) :
    eraseOutside Text.isBlank none (Text.strip t) = eraseOutside Text.isBlank none t := by
  -- What is trimmed is white space outside of all regions, which is erased anyway.
  obtain ⟨a, b, hsplit, ha, hb⟩ := Text.exists_strip t
  have hstart := regionAfter_plain fun c hc => isPlain_of_isBlank (ha c hc)
  calc
    eraseOutside Text.isBlank none (Text.strip t)
        = eraseOutside Text.isBlank none (a ++ Text.strip t ++ b) := by
      rw [List.append_assoc, eraseOutside_closed_append _ hstart,
        eraseOutside_closed_append _ ht.strip.closed, eraseOutside_blank ha, eraseOutside_blank hb,
        List.nil_append, List.append_nil]
    _ = eraseOutside Text.isBlank none t := by rw [← hsplit]

/-- But for white space an echoed clause is its keyword, if that is kept, and its arguments. -/
theorem eraseOutside_echoClause {drops : Text → Bool} {k : Keyword} (hk : IsOrdinary k.text)
    (args : Text) :
    eraseOutside Text.isBlank none (echoClause (!drops k.text) k.text args) =
      eraseOutside Text.isBlank none (keptKeyword drops k.text) ++
        eraseOutside Text.isBlank none args := by
  have hclosed := regionAfter_plain (isPlain_of_isOrdinary hk k.brace_not_mem)
  rw [echoClause, keptKeyword, Bool.not_not]
  split
  · rfl
  · split
    · -- No space stands after a keyword without arguments.
      next hargs => rw [hargs]; simp [eraseOutside]
    · rw [eraseOutside_closed_append _ hclosed]
      rfl

def isMarkup (c : Char) : Bool := Text.isBlank c || c == '\x7b' || c == '\x7d'

theorem eraseOutside_isMarkup {t : Text} (ht : ClauseFree t) :
    eraseOutside isMarkup none t = eraseOutside Text.isBlank none t :=
  have hclass : ∀ c, c ≠ '\x7b' → c ≠ '\x7d' → isMarkup c = Text.isBlank c := by
    intro c hopen hclose
    rw [isMarkup, beq_false_of_ne hopen, beq_false_of_ne hclose, Bool.or_false, Bool.or_false]
  eraseOutside_congr hclass ht

theorem eraseOutside_isMarkup_keptKeyword {drops : Text → Bool} {k : Keyword}
    (hk : IsOrdinary k.text) :
    eraseOutside isMarkup none (keptKeyword drops k.text) =
      eraseOutside Text.isBlank none (keptKeyword drops k.text) :=
  eraseOutside_isMarkup (clauseFree_of_plain (isPlain_of_mem_keptKeyword _ hk))

/-- What a clause is spelled as is what its echo is, but for markup, if that holds of its tail and
of what follows it. -/
theorem Registry.OnlyEchoes.eraseOutside_answer {handlers : Registry σ}
    (hechoes : handlers.OnlyEchoes) {k : Keyword} (hk : IsOrdinary k.text) {t : Text}
    (ht : regionAfter none t = none) {tail : Rewriter σ} (hfree : tail.ClauseFree)
    (htail : ∀ s x, tail s = some x →
      eraseOutside isMarkup none t = eraseOutside Text.isBlank none x.text)
    {s : σ} {w : Rewriting σ} (hw : Rewriter.answer handlers k.text tail s = some w)
    {rest out : Text}
    (hrest : eraseOutside isMarkup none rest = eraseOutside Text.isBlank none out) :
    eraseOutside isMarkup none
        ('\x7b' :: (keptKeyword handlers.drops k.text ++ (t ++ '\x7d' :: rest))) =
      eraseOutside Text.isBlank none (w.text ++ out) := by
  -- The answer leaves no region open, so that what follows it starts outside.
  have hclosed := (Rewriter.ClauseFree.answer hechoes.stock hk hfree s w hw).closed
  obtain ⟨x, r, hx, hr, rfl⟩ := Rewriter.answer_eq_some_iff.1 hw
  obtain rfl := hechoes.answer hr
  rw [eraseOutside_clause (isPlain_of_mem_keptKeyword _ hk) ht rest rfl rfl,
    eraseOutside_closed_append _ hclosed, eraseOutside_isMarkup_keptKeyword hk,
    eraseOutside_echoClause hk, (hfree s x hx).eraseOutside_strip, htail s x hx, hrest]

/-- The value of items, under handlers that echo, is what they spell but for what is dropped and
for markup. -/
theorem Items.eraseOutside_value {handlers : Registry σ} (hechoes : handlers.OnlyEchoes)
    (items : Items) (hkeywords : ∀ k ∈ items.keywords, IsOrdinary k) :
    ∀ s w, items.value handlers s = some w →
      eraseOutside isMarkup none (items.spellingWithout handlers.drops) =
        eraseOutside Text.isBlank none w.text := by
  induction items with
  | nil =>
    intro s w h
    cases h
    rfl
  | plain c hc rest ih =>
    intro s w h
    obtain ⟨x, hx, rfl⟩ := Rewriter.write_andThen_eq_some_iff.1 h
    have hplain : ClauseFree [c] := clauseFree_of_plain (by simpa using hc)
    have hstart := eraseOutside_closed_append isMarkup hplain.closed
    rw [eraseOutside_closed_append _ hplain.closed, ← ih hkeywords s x hx,
      ← eraseOutside_isMarkup hplain]
    exact hstart _
  | quoted q body hb rest ih =>
    intro s w h
    obtain ⟨x, hx, rfl⟩ := Rewriter.write_andThen_eq_some_iff.1 h
    have hregion := ClauseFree.quoted q body hb
    rw [spellingWithout, quoted_append, eraseOutside_closed_append _ hregion.closed,
      eraseOutside_closed_append _ hregion.closed, eraseOutside_isMarkup hregion,
      ih hkeywords s x hx]
  | bare k rest ih =>
    intro s w h
    rw [keywords, List.forall_mem_cons] at hkeywords
    obtain ⟨x, y, hx, hy, rfl⟩ := Rewriter.andThen_eq_some_iff.1 h
    have hnil : ClauseFree [] := clauseFreeFrom_nil_iff.2 rfl
    refine hechoes.eraseOutside_answer hkeywords.1 hnil.closed (.write hnil) ?_ hx
      (ih hkeywords.2 x.state y hy)
    rintro s x ⟨⟩
    rfl
  | clause k c hc tail rest ihtail ih =>
    intro s w h
    rw [keywords, List.forall_mem_cons, List.forall_mem_append] at hkeywords
    obtain ⟨x, y, hx, hy, rfl⟩ := Rewriter.andThen_eq_some_iff.1 h
    have hregion := regionStep_plain (isPlain_of_isBlank hc)
    have hclosed : regionAfter none (c :: tail.spellingWithout handlers.drops) = none :=
      (regionAfter_cons_of_blank hc _).trans
        (tail.regionAfter_spellingWithout handlers.drops hkeywords.2.1)
    have hblank : ClauseFree [c] := clauseFree_of_plain (by simpa using isPlain_of_isBlank hc)
    have hfree := (Rewriter.ClauseFree.write hblank).andThen
      (tail.clauseFree_value hechoes.stock hkeywords.2.1)
    refine hechoes.eraseOutside_answer hkeywords.1 hclosed hfree ?_ hx
      (ih hkeywords.2.2 x.state y hy)
    -- The white space that starts the tail is erased on both sides.
    intro s' x' hx'
    obtain ⟨z, hz, rfl⟩ := Rewriter.write_andThen_eq_some_iff.1 hx'
    have hmarkup : isMarkup c = true := by simp [isMarkup, hc]
    rw [eraseOutside_cons_of_class hmarkup hregion, ihtail hkeywords.2.1 s' z hz]
    exact (eraseOutside_cons_of_class hc hregion z.text).symm

/-- Handlers that echo lose nothing, add nothing and move nothing. The text with braces, white space
and the keywords of dropped clauses erased outside its quoted regions is what comes out with white
space erased outside its quoted regions, and the two have the same quoted regions. -/
theorem expand_conserves (handlers : Registry σ) (hechoes : handlers.OnlyEchoes)
    (hordinary : ∀ k ∈ handlers.keys, IsOrdinary k) {text out : Text} {state : σ}
    (h : (expand handlers text state).result = .ok out) :
    (∃! items : Items, items.spelling = text) ∧
      (∀ items : Items, items.spelling = text →
        eraseOutside isMarkup none (items.spellingWithout handlers.drops) =
          eraseOutside Text.isBlank none out) ∧
      quotedRegions text = quotedRegions out := by
  obtain ⟨items, rfl, w, hvalue, rfl⟩ := expand_ok_iff_value.1 h
  -- Every keyword of an expanded text is registered, and the registered ones are ordinary.
  have hanswers := (items.value_isSome_iff state).1 (by rw [hvalue]; rfl)
  have hkeywords : ∀ k ∈ items.keywords, IsOrdinary k :=
    fun k hk => hordinary k (hanswers k hk).mem_keys
  have herased := items.eraseOutside_value hechoes hkeywords state w hvalue
  have hunique : ∀ other : Items, other.spelling = items.spelling → other = items :=
    fun _ => Items.spelling_injective
  have hblank : ∀ c, Text.isBlank c = true → Quote.ofOpener? c = none :=
    fun c hc => (isPlain_iff.1 (isPlain_of_isBlank hc)).1
  have hmarkup : ∀ c, isMarkup c = true → Quote.ofOpener? c = none := by
    intro c hc
    rw [isMarkup, Bool.or_eq_true, Bool.or_eq_true, beq_iff_eq, beq_iff_eq] at hc
    rcases hc with (hc | rfl) | rfl
    · exact hblank c hc
    · rfl
    · rfl
  -- Erasing leaves quoted regions alone on both sides, and in between the texts are equal.
  have hregions : quotedRegions items.spelling = quotedRegions w.text := by
    calc
      quotedRegions items.spelling
          = items.quotes := by
        rw [← items.spellingWithout_nothing, items.quotedRegions_spellingWithout _ hkeywords]
      _ = quotedRegions (items.spellingWithout handlers.drops) :=
        (items.quotedRegions_spellingWithout _ hkeywords).symm
      _ = quotedRegions w.text := by
        rw [← quotedRegions_eraseOutside hmarkup, herased, quotedRegions_eraseOutside hblank]
  refine ⟨⟨items, rfl, hunique⟩, ?_, hregions⟩
  intro other hother
  rw [hunique other hother]
  exact herased

/-- A dropped keyword in a kept clause, with white space inside and outside of quotes. -/
theorem expand_conserves_nested :
    let handlers : Registry Unit :=
      .ofList [("limit".toList, .echo true), ("d".toList, .echo false)]
    handlers.OnlyEchoes ∧ (∀ k ∈ handlers.keys, IsOrdinary k) ∧
      (expand handlers "\x7blimit  \x7bd ' 1 \x7d' \x7d \x7d[ ]".toList ()).result =
        .ok "limit ' 1 \x7d'[ ]".toList ∧
      quotedRegions "\x7blimit  \x7bd ' 1 \x7d' \x7d \x7d[ ]".toList =
        ["' 1 \x7d'".toList, "[ ]".toList] := by
  intro handlers
  have hentries : handlers.entries =
      [("limit".toList, .echo true), ("d".toList, .echo false)] := by rfl
  have hechoes : handlers.OnlyEchoes := by
    rw [Registry.OnlyEchoes, hentries]
    simp
  have hordinary : ∀ k ∈ handlers.keys, IsOrdinary k := by decide
  have hresult : (expand handlers "\x7blimit  \x7bd ' 1 \x7d' \x7d \x7d[ ]".toList ()).result =
      .ok "limit ' 1 \x7d'[ ]".toList := by rfl
  obtain ⟨-, -, hregions⟩ := expand_conserves handlers hechoes hordinary hresult
  exact ⟨hechoes, hordinary, hresult, hregions⟩

end EscapeClause
