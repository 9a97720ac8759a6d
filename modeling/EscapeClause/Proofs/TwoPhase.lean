import Mathlib.Data.List.TakeWhile
import EscapeClause.Proofs.Denotation

/-!
# Expanding with look-ahead

There is another way to expand a text: on an opening brace look ahead for the closing brace that
matches it, take what stands between the two, cut the keyword off it, expand the rest in the same
way and hand it to the handler. `twoPhase` does so. It counts braces outside quoted regions
(`clauseBody?`) before it knows any keyword, while a reader is committed to a keyword before it
sees how the clause ends and lets quotes and braces be part of it. The two ways differ on where
such a clause ends.

The main statement is `twoPhase_eq_expand`: they expand the same texts to the same results, with
the same calls, whenever no registered keyword has a quote or an opening brace in it.
-/

namespace EscapeClause

variable {σ : Type}

def Rewriter.fail : Rewriter σ := fun _ => none

/-- What stands before the next occurrence of a code point, and what stands after it. -/
def cutAt? (c : Char) : Text → Option (Text × Text)
  | [] => none
  | x :: r => if x = c then some ([], r) else (cutAt? c r).map fun cut => (x :: cut.1, cut.2)

def prepend (s : Text) (cut : Text × Text) : Text × Text := (s ++ cut.1, cut.2)

/-- What stands before the closing brace that matches a brace already read, and what stands after
it. The place reached is in a region of `quote`, and `depth` more braces are open. -/
def clauseBody? (quote : Option Quote) (depth : Nat) : Text → Option (Text × Text)
  | [] => none
  | c :: r =>
    match quote with
    | some q =>
      (clauseBody? (if c = q.closer then none else some q) depth r).map (prepend [c])
    | none =>
      match Quote.ofOpener? c with
      | some q => (clauseBody? (some q) depth r).map (prepend [c])
      | none =>
        if c = '\x7b' then (clauseBody? none (depth + 1) r).map (prepend [c])
        else if c = '\x7d' then
          match depth with
          | 0 => some ([], r)
          | outer + 1 => (clauseBody? none outer r).map (prepend [c])
        else (clauseBody? none depth r).map (prepend [c])

theorem eq_of_cutAt? {c : Char} {t body rest : Text} (h : cutAt? c t = some (body, rest)) :
    t = body ++ c :: rest ∧ c ∉ body := by
  induction t generalizing body with
  | nil => cases h
  | cons x r ih =>
    rw [cutAt?] at h
    split at h
    · next hx =>
      cases h
      exact ⟨by rw [hx]; rfl, by simp⟩
    · next hx =>
      obtain ⟨cut, hcut, heq⟩ := Option.map_eq_some_iff.1 h
      cases heq
      obtain ⟨rfl, hc⟩ := ih hcut
      exact ⟨rfl, by simpa [hc] using fun hcx => hx hcx.symm⟩

theorem cutAt?_append_cons {c : Char} {body : Text} (hb : c ∉ body) (rest : Text) :
    cutAt? c (body ++ c :: rest) = some (body, rest) := by
  induction body with
  | nil => simp [cutAt?]
  | cons x r ih =>
    rw [List.mem_cons, not_or] at hb
    rw [List.cons_append, cutAt?, if_neg fun hx => hb.1 hx.symm, ih hb.2]
    rfl

theorem eq_of_clauseBody? {quote : Option Quote} {depth : Nat} {t body rest : Text}
    (h : clauseBody? quote depth t = some (body, rest)) : t = body ++ '\x7d' :: rest := by
  induction t generalizing quote depth body with
  | nil => cases h
  | cons c r ih =>
    -- All branches but the last keep the character and go on, whatever mode they go on in.
    have more : ∀ {quote : Option Quote} {depth : Nat},
        (clauseBody? quote depth r).map (prepend [c]) = some (body, rest) →
          c :: r = body ++ '\x7d' :: rest := by
      intro quote depth h
      obtain ⟨cut, hcut, heq⟩ := Option.map_eq_some_iff.1 h
      cases heq
      rw [ih hcut]
      rfl
    unfold clauseBody? at h
    split at h
    · exact more h
    · split at h
      · exact more h
      · split at h
        · exact more h
        · split at h
          · next hc =>
            split at h
            · cases h
              rw [hc]
              rfl
            · exact more h
          · exact more h

/-- Expands a text with look-ahead. -/
def twoPhase (handlers : Registry σ) (t : Text) : Rewriter σ :=
  match t with
  | [] => .write []
  | c :: r =>
    match Quote.ofOpener? c with
    | some q =>
      match _h : cutAt? q.closer r with
      | none => .fail
      | some (body, rest) =>
        (Rewriter.write (c :: body ++ [q.closer])).andThen (twoPhase handlers rest)
    | none =>
      if c = '\x7b' then
        match _h : clauseBody? none 0 r with
        | none => .fail
        | some (body, rest) =>
          -- The tail keeps the white space that it starts with; trimming takes it away.
          let keyword := body.takeWhile (!Text.isBlank ·)
          let tail := body.dropWhile (!Text.isBlank ·)
          if keyword = [] then .fail
          else if !handlers.contains keyword then .fail
          else
            (Rewriter.answer handlers keyword (twoPhase handlers tail)).andThen
              (twoPhase handlers rest)
      else if c = '\x7d' then .fail
      else (Rewriter.write [c]).andThen (twoPhase handlers r)
termination_by t.length
decreasing_by
  · rw [(eq_of_cutAt? _h).1]
    simp
    omega
  · have hle := (body.dropWhile_suffix (!Text.isBlank ·)).length_le
    rw [eq_of_clauseBody? _h]
    simp
    omega
  · rw [eq_of_clauseBody? _h]
    simp
    omega
  · simp

theorem Rewriter.isSome_of_andThen {a b : Rewriter σ} {s : σ} (h : ((a.andThen b) s).isSome) :
    (a s).isSome ∧ ∃ s', (b s').isSome := by
  rw [andThen] at h
  cases ha : a s with
  | none =>
    rw [ha] at h
    cases h
  | some x =>
    rw [ha, Option.bind_some, Option.isSome_map] at h
    exact ⟨rfl, _, h⟩

theorem Rewriter.isSome_of_answer {handlers : Registry σ} {keyword : Text} {tail : Rewriter σ}
    {s : σ} (h : ((answer handlers keyword tail) s).isSome) : (tail s).isSome := by
  rw [answer] at h
  cases htail : tail s with
  | none =>
    rw [htail] at h
    cases h
  | some x => rfl

/-! ### Looking ahead over items -/

/-- Looking ahead over `s` goes from one place to another. -/
def Skips (quote : Option Quote) (depth : Nat) (s : Text) (quote' : Option Quote) (depth' : Nat) :
    Prop :=
  ∀ t, clauseBody? quote depth (s ++ t) = (clauseBody? quote' depth' t).map (prepend s)

namespace Skips

variable {quote quote' quote'' : Option Quote} {depth depth' depth'' : Nat} {c : Char}

theorem nil : Skips quote depth [] quote depth := by
  intro t
  cases h : clauseBody? quote depth t <;> simp [h, prepend]

theorem append {s u : Text} (hs : Skips quote depth s quote' depth')
    (hu : Skips quote' depth' u quote'' depth'') :
    Skips quote depth (s ++ u) quote'' depth'' := by
  intro t
  rw [List.append_assoc, hs, hu, Option.map_map]
  congr 1
  funext cut
  simp [prepend]

theorem plain (hc : isPlain c = true) : Skips none depth [c] none depth := by
  intro t
  obtain ⟨hq, hopen, hclose⟩ := isPlain_iff.1 hc
  simp [clauseBody?, hq, hopen, hclose]

theorem opener (q : Quote) : Skips none depth [q.opener] (some q) depth := by
  intro t
  simp [clauseBody?]

theorem inside {q : Quote} (hc : c ≠ q.closer) : Skips (some q) depth [c] (some q) depth := by
  intro t
  simp [clauseBody?, hc]

theorem closer (q : Quote) : Skips (some q) depth [q.closer] none depth := by
  intro t
  simp [clauseBody?]

theorem brace : Skips none depth ['\x7b'] none (depth + 1) := fun _ => rfl

theorem close : Skips none (depth + 1) ['\x7d'] none depth := fun _ => rfl

theorem all_plain {s : Text} (hs : ∀ c ∈ s, isPlain c = true) (depth : Nat) :
    Skips none depth s none depth := by
  induction s with
  | nil => exact nil
  | cons c r ih =>
    rw [List.forall_mem_cons] at hs
    exact append (plain hs.1) (ih hs.2)

theorem all_inside {q : Quote} {s : Text} (hs : q.closer ∉ s) :
    Skips (some q) depth s (some q) depth := by
  induction s with
  | nil => exact nil
  | cons c r ih =>
    rw [List.mem_cons, not_or] at hs
    exact append (inside fun hc => hs.1 hc.symm) (ih hs.2)

end Skips

/-- A keyword without a quote and without an opening brace. -/
def IsOrdinary (keyword : Text) : Prop :=
  ∀ c ∈ keyword, Quote.ofOpener? c = none ∧ c ≠ '\x7b'

instance (keyword : Text) : Decidable (IsOrdinary keyword) :=
  List.decidableBAll (fun c => Quote.ofOpener? c = none ∧ c ≠ '\x7b') keyword

theorem isPlain_of_isOrdinary {k : Text} (h : IsOrdinary k) (hclose : '\x7d' ∉ k) :
    ∀ c ∈ k, isPlain c = true := by
  intro c hc
  refine isPlain_iff.2 ⟨(h c hc).1, (h c hc).2, ?_⟩
  rintro rfl
  exact hclose hc

theorem Keyword.brace_not_mem (k : Keyword) : '\x7d' ∉ k.text := by
  intro h
  have := k.all_isKeywordChar _ h
  cases this

/-- Looking ahead over items comes back to the same place. -/
theorem Items.skips_spelling (items : Items) (h : ∀ k ∈ items.keywords, IsOrdinary k)
    (depth : Nat) : Skips none depth items.spelling none depth := by
  -- A clause is entered one level deeper and left again, so the depth at the end is the one at the
  -- start.
  induction items generalizing depth with
  | nil => exact .nil
  | plain c hc rest ih => exact (Skips.plain hc).append (ih h depth)
  | quoted q body hb rest ih =>
    exact (Skips.opener q).append
      ((Skips.all_inside hb).append ((Skips.closer q).append (ih h depth)))
  | bare k rest ih =>
    rw [keywords, List.forall_mem_cons] at h
    have hk := Skips.all_plain (isPlain_of_isOrdinary h.1 k.brace_not_mem) (depth + 1)
    exact Skips.brace.append (hk.append (Skips.close.append (ih h.2 depth)))
  | clause k c hc tail rest ihtail ih =>
    rw [keywords, List.forall_mem_cons, List.forall_mem_append] at h
    have hk := Skips.all_plain (isPlain_of_isOrdinary h.1 k.brace_not_mem) (depth + 1)
    exact Skips.brace.append (hk.append ((Skips.plain (isPlain_of_isBlank hc)).append
      ((ihtail h.2.1 (depth + 1)).append (Skips.close.append (ih h.2.2 depth)))))

/-- The closing brace that matches is the first one after items. -/
theorem Skips.clauseBody?_eq {s : Text} (h : Skips none 0 s none 0) (rest : Text) :
    clauseBody? none 0 (s ++ '\x7d' :: rest) = some (s, rest) := by
  have hclose : clauseBody? none 0 ('\x7d' :: rest) = some ([], rest) := rfl
  rw [h, hclose]
  simp [prepend]

/-- An ordinary keyword at the start of a clause's body has no closing brace in it: the clause
would end there. -/
theorem brace_not_mem_of_clauseBody? {k tail rest t : Text} (hk : IsOrdinary k)
    (h : clauseBody? none 0 t = some (k ++ tail, rest)) : '\x7d' ∉ k := by
  intro hmem
  obtain ⟨before, after, rfl, hbefore⟩ := List.eq_append_cons_of_mem hmem
  have hplain := isPlain_of_isOrdinary (fun c hc => hk c (List.mem_append_left _ hc)) hbefore
  have hcut := (Skips.all_plain hplain 0).clauseBody?_eq (after ++ tail ++ '\x7d' :: rest)
  rw [eq_of_clauseBody? h] at h
  simp only [List.append_assoc, List.cons_append] at h hcut
  rw [hcut] at h
  have hlength := congrArg (List.length ∘ Prod.fst) (Option.some.inj h)
  simp at hlength

/-- A keyword is what a body has before its first white space. -/
theorem Keyword.cut_append (k : Keyword) {tail : Text}
    (htail : ∀ c ∈ tail.head?, Text.isBlank c = true) :
    (k.text ++ tail).takeWhile (!Text.isBlank ·) = k.text ∧
      (k.text ++ tail).dropWhile (!Text.isBlank ·) = tail := by
  have hk : ∀ c ∈ k.text, (!Text.isBlank c) = true := fun c hc => by
    simp [(isKeywordChar_iff.1 (k.all_isKeywordChar c hc)).1]
  have hstop : ∀ c ∈ tail.head?, (!Text.isBlank c) = false := fun c hc => by simp [htail c hc]
  exact ⟨Text.takeWhile_append_of_head? hk hstop, Text.dropWhile_append_of_head? hk hstop⟩

theorem Rewriter.answer_eq_fail {handlers : Registry σ} {keyword : Text}
    (h : handlers.contains keyword = false) (tail : Rewriter σ) :
    answer handlers keyword tail = fail := by
  have hget : handlers.get? keyword = none := by simpa [OrderedMap.contains] using h
  funext s
  rw [answer, fail]
  cases tail s with
  | none => rfl
  | some x => simp [Registry.answer?, hget]

/-! ### The two ways agree -/

section Equations

variable (handlers : Registry σ)

theorem twoPhase_nil : twoPhase handlers [] = .write [] := by rw [twoPhase]

theorem twoPhase_plain {c : Char} (hc : isPlain c = true) (r : Text) :
    twoPhase handlers (c :: r) = (Rewriter.write [c]).andThen (twoPhase handlers r) := by
  obtain ⟨hq, hopen, hclose⟩ := isPlain_iff.1 hc
  rw [twoPhase]
  simp [hq, hopen, hclose]

theorem twoPhase_quoted {q : Quote} {body : Text} (hb : q.closer ∉ body) (rest : Text) :
    twoPhase handlers (q.opener :: (body ++ q.closer :: rest)) =
      (Rewriter.write (q.opener :: body ++ [q.closer])).andThen (twoPhase handlers rest) := by
  rw [twoPhase]
  simp only [Quote.ofOpener?_opener]
  split
  · next h =>
    rw [cutAt?_append_cons hb] at h
    cases h
  · next h =>
    rw [cutAt?_append_cons hb] at h
    cases h
    rfl

/-- A clause whose body is a keyword and a tail. -/
theorem twoPhase_clause (k : Keyword) {tail : Text} (rest : Text)
    (htail : ∀ c ∈ tail.head?, Text.isBlank c = true)
    (h : Skips none 0 (k.text ++ tail) none 0) :
    twoPhase handlers ('\x7b' :: (k.text ++ (tail ++ '\x7d' :: rest))) =
      (Rewriter.answer handlers k.text (twoPhase handlers tail)).andThen
        (twoPhase handlers rest) := by
  have hbody := h.clauseBody?_eq rest
  rw [List.append_assoc] at hbody
  obtain ⟨hkeyword, hrest⟩ := k.cut_append htail
  have hq : Quote.ofOpener? '\x7b' = none := by decide
  rw [twoPhase]
  simp only [hq, if_true]
  -- The body was located already: the cut found is this one.
  split
  · next hcut =>
    rw [hbody] at hcut
    cases hcut
  · next hcut =>
    rw [hbody] at hcut
    cases hcut
    simp only [hkeyword, hrest, if_neg k.ne_nil]
    cases hknown : handlers.contains k.text with
    | true => rfl
    | false =>
      rw [Rewriter.answer_eq_fail hknown]
      rfl

end Equations

/-- What is expanded with look-ahead is spelled by items with registered keywords. -/
theorem exists_items_of_twoPhase {handlers : Registry σ}
    (hkeys : ∀ k ∈ handlers.keys, IsOrdinary k) (t : Text) :
    ∀ s, (twoPhase handlers t s).isSome →
      ∃ items : Items, items.spelling = t ∧ ∀ k ∈ items.keywords, k ∈ handlers.keys := by
  fun_induction twoPhase handlers t with
  | case1 => exact fun _ _ => ⟨.nil, rfl, by simp [Items.keywords]⟩
  | case2 | case4 | case5 | case6 | case8 =>
    intro s h
    cases h
  | case3 c r q hq body rest hcut ih =>
    intro s h
    obtain ⟨-, s', h'⟩ := Rewriter.isSome_of_andThen h
    obtain ⟨items, rfl, hitems⟩ := ih s' h'
    obtain ⟨rfl, hb⟩ := eq_of_cutAt? hcut
    rw [Quote.ofOpener?_eq_some_iff.1 hq]
    exact ⟨.quoted q body hb items, rfl, hitems⟩
  | case7 r body rest hcut keyword tail hne hknown _ ihtail ih =>
    intro s h
    obtain ⟨hclause, s', h'⟩ := Rewriter.isSome_of_andThen h
    obtain ⟨inner, hinner, hinnerkeys⟩ := ihtail s (Rewriter.isSome_of_answer hclause)
    obtain ⟨outer, rfl, houter⟩ := ih s' h'
    -- The clause located is `keyword` and `tail`; the items of `tail` become its body.
    have hmem : keyword ∈ handlers.keys := OrderedMap.contains_iff.1 (by simpa using hknown)
    have hbody : body = keyword ++ tail := List.takeWhile_append_dropWhile.symm
    have hclose : '\x7d' ∉ keyword :=
      brace_not_mem_of_clauseBody? (hkeys keyword hmem) (hbody ▸ hcut)
    have hall : ∀ c ∈ keyword, isKeywordChar c = true := by
      intro c hc
      have hblank := List.mem_takeWhile_imp hc
      refine isKeywordChar_iff.2 ⟨by simpa using hblank, ?_⟩
      rintro rfl
      exact hclose hc
    have hblank : ∀ c ∈ inner.spelling.head?, Text.isBlank c = true := by
      intro c hc
      have hhead := body.head?_dropWhile_not (!Text.isBlank ·)
      rw [hinner] at hc
      simp only [Option.mem_def.1 hc, tail] at hhead
      simpa using hhead
    obtain ⟨items, hspelling, hkeywords⟩ :=
      Items.exists_clause ⟨keyword, hne, hall⟩ outer hblank
    refine ⟨items, ?_, ?_⟩
    · rw [hspelling, eq_of_clauseBody? hcut, hbody, hinner, List.append_assoc]
    · rw [hkeywords, List.forall_mem_cons, List.forall_mem_append]
      exact ⟨hmem, hinnerkeys, houter⟩
  | case9 c r hq hopen hclose ih =>
    intro s h
    obtain ⟨-, s', h'⟩ := Rewriter.isSome_of_andThen h
    obtain ⟨items, rfl, hitems⟩ := ih s' h'
    exact ⟨.plain c (isPlain_iff.2 ⟨hq, hopen, hclose⟩) items, rfl, hitems⟩

/-- With ordinary keywords, what items spell is expanded to their value. -/
theorem twoPhase_spelling (handlers : Registry σ) (items : Items)
    (h : ∀ k ∈ items.keywords, IsOrdinary k) :
    twoPhase handlers items.spelling = items.value handlers := by
  induction items with
  | nil => exact twoPhase_nil handlers
  | plain c hc rest ih =>
    rw [Items.spelling, twoPhase_plain handlers hc, ih h]
    rfl
  | quoted q body hb rest ih =>
    rw [Items.spelling, twoPhase_quoted handlers hb, ih h]
    rfl
  | bare k rest ih =>
    rw [Items.keywords, List.forall_mem_cons] at h
    have hk := Skips.all_plain (isPlain_of_isOrdinary h.1 k.brace_not_mem) 0
    have hbody : Skips none 0 (k.text ++ []) none 0 := by simpa using hk
    have hclause := twoPhase_clause handlers k rest.spelling (by simp) hbody
    rw [Items.spelling, ← List.nil_append ('\x7d' :: rest.spelling), hclause, twoPhase_nil,
      ih h.2]
    rfl
  | clause k c hc tail rest ihtail ih =>
    rw [Items.keywords, List.forall_mem_cons, List.forall_mem_append] at h
    have hk := Skips.all_plain (isPlain_of_isOrdinary h.1 k.brace_not_mem) 0
    have hbody := hk.append ((Skips.plain (isPlain_of_isBlank hc)).append
      (tail.skips_spelling h.2.1 0))
    have hclause := twoPhase_clause handlers k rest.spelling (by simpa using hc) hbody
    rw [List.singleton_append, twoPhase_plain handlers (isPlain_of_isBlank hc), ihtail h.2.1,
      ih h.2.2] at hclause
    exact hclause

/-- Expanding with look-ahead expands the same texts to the same results, with the same calls and
the same state of the handlers at the end, if no registered keyword has a quote or an opening brace
in it. -/
theorem twoPhase_eq_expand (handlers : Registry σ) (hkeys : ∀ k ∈ handlers.keys, IsOrdinary k)
    (text : Text) (state : σ) :
    twoPhase handlers text state =
      (expand handlers text state).result.toOption.map fun out =>
        ⟨out, (expand handlers text state).dispatches.map Dispatch.call,
          (expand handlers text state).state⟩ := by
  cases hresult : (expand handlers text state).result with
  | ok out =>
    obtain ⟨items, rfl, w, hvalue, rfl⟩ := expand_ok_iff_value.1 hresult
    obtain ⟨-, hcalls, hstate⟩ := expand_spelling_of_some hvalue
    have hanswers := (items.value_isSome_iff state).1 (by rw [hvalue]; rfl)
    rw [twoPhase_spelling handlers items fun k hk => hkeys k (hanswers k hk).mem_keys, hvalue,
      hcalls, hstate]
    rfl
  | error failure =>
    cases hrun : twoPhase handlers text state with
    | none => rfl
    | some w =>
      -- An output of the reference would be one of the expansion.
      obtain ⟨items, rfl, hitems⟩ := exists_items_of_twoPhase hkeys text state (by rw [hrun]; rfl)
      rw [twoPhase_spelling handlers items fun k hk => hkeys k (hitems k hk)] at hrun
      rw [(expand_spelling_of_some hrun).1] at hresult
      cases hresult

/-- A brace in a quoted region, and a clause in the tail of another one. -/
theorem twoPhase_eq_expand_nested :
    (∀ k ∈ (Registry.standard : Registry Unit).keys, IsOrdinary k) ∧
      twoPhase Registry.standard "\x7bfn ucase(\x7bd '\x7d'\x7d)\x7d".toList () =
        some ⟨"UPPER('\x7d')".toList,
          [⟨"d".toList, "'\x7d'".toList⟩, ⟨"fn".toList, "ucase('\x7d')".toList⟩], ()⟩ :=
  ⟨by decide, twoPhase_eq_expand Registry.standard (by decide) _ ()⟩

end EscapeClause
