import EscapeClause.Proofs.Concatenation
import EscapeClause.Proofs.Spans

/-!
# Where texts are refused

A refusal points at a place of the text: levels are read before it, and what stands there shows the
cause (`Refusal.PointsAt`). Whatever refusal a reader ends with points at such a place
(`Outline.pointsAt_of_refusal`), and an unknown keyword follows the brace of a clause that stands
behind levels (`Outline.exists_levels_of_leave`).

Up to its position the text is tolerated: it is expanded, or all that is wrong with it is that a
clause is not closed. For levels stand there, and the clauses that are closed in them are answered
(`Levels.tolerates_spelling`).

The main statement is `expand_error_position`, on the errors of every cause.
-/

namespace EscapeClause

variable {σ : Type}

/-! ### The outermost clause of levels -/

namespace Levels

theorem exists_items_of_clauses_eq_nil {l : Levels} (h : l.clauses = []) :
    ∃ items : Items, l = outermost items := by
  cases l with
  | outermost items => exact ⟨items, rfl⟩
  | within around k c hc tail => cases h

/-- Before the outermost open clause stand items. -/
theorem exists_items_of_getLast?_clauses {l : Levels} {k : Clause}
    (h : l.clauses.getLast? = some k) :
    ∃ (items : Items) (rest : Text), l.spelling = items.spelling ++ '\x7b' :: rest ∧
      k.brace = items.spelling.length := by
  induction l with
  | outermost items => cases h
  | within around kw c hc tail ih =>
    rw [clauses, List.getLast?_cons] at h
    -- The outermost clause is this one exactly when nothing is open around it.
    cases hlast : around.clauses.getLast? with
    | none =>
      obtain ⟨items, rfl⟩ := exists_items_of_clauses_eq_nil (List.getLast?_eq_none_iff.1 hlast)
      rw [hlast] at h
      cases h
      exact ⟨items, _, rfl, rfl⟩
    | some outer =>
      rw [hlast] at h
      cases h
      obtain ⟨items, rest, hspelling, hbrace⟩ := ih hlast
      exact ⟨items, _, by rw [spelling, hspelling, List.append_assoc]; rfl, hbrace⟩

end Levels

/-! ### What a refusal points at -/

/-- What stands in the text at the position of a refusal, and before it. -/
inductive Refusal.PointsAt : Refusal → Text → Prop
  /-- An opener whose closer does not follow. -/
  | quote (l : Levels) (q : Quote) (body : Text) (hb : q.closer ∉ body) :
    PointsAt ⟨.unterminatedQuote, l.spelling.length⟩ (l.spelling ++ q.opener :: body)
  /-- A closing brace outside all clauses. -/
  | unopened (items : Items) (rest : Text) :
    PointsAt ⟨.unopenedClause, items.spelling.length⟩ (items.spelling ++ '\x7d' :: rest)
  /-- An opening brace before something that cannot begin a keyword. -/
  | missing (l : Levels) (c : Char) (hc : isKeywordChar c = false) (rest : Text) :
    PointsAt ⟨.missingKeyword, l.spelling.length⟩ (l.spelling ++ '\x7b' :: c :: rest)
  /-- An opening brace at which the text stops. -/
  | last (l : Levels) :
    PointsAt ⟨.unterminatedClause, l.spelling.length⟩ (l.spelling ++ ['\x7b'])
  /-- The opening brace of an outermost clause. -/
  | unclosed (items : Items) (rest : Text) :
    PointsAt ⟨.unterminatedClause, items.spelling.length⟩ (items.spelling ++ '\x7b' :: rest)

/-- What a step refuses is what it stands at. -/
theorem Reader.Reads.pointsAt_of_step {t : Text} {s : Reader} {c : Char} {refusal : Refusal}
    (h : Reads t s) (hstep : s.step c = .error refusal) (rest : Text) :
    refusal.PointsAt (t ++ c :: rest) := by
  have hmove := move_step s c
  rw [hstep] at hmove
  -- A step refuses for two reasons only: a brace that closes nothing, or an empty keyword.
  cases hmove with
  | unopened =>
    -- The empty list stands where the relation wants a variable: it is named before the split.
    generalize hcs : ([] : List Clause) = cs at h
    cases h with
    | plain l =>
      obtain ⟨items, rfl⟩ := Levels.exists_items_of_clauses_eq_nil hcs.symm
      exact .unopened items rest
  | missing hc =>
    generalize hread : ([] : Text) = read at h
    cases h with
    | keyword l k hk =>
      obtain rfl : k = [] := List.reverse_eq_nil_iff.1 hread.symm
      simpa using Refusal.PointsAt.missing l c hc rest

/-- What is missing at the end of a text is missing from where it began. -/
theorem Reader.Reads.pointsAt_of_missing? {t : Text} {s : Reader} {refusal : Refusal}
    (h : Reads t s) (hmissing : s.missing? = some refusal) : refusal.PointsAt t := by
  -- The text ended here: outside a clause name, inside a quoted region, or in a keyword.
  cases h with
  | plain l =>
    obtain ⟨k, hlast, rfl⟩ := Option.map_eq_some_iff.1 hmissing
    obtain ⟨items, rest, hspelling, hbrace⟩ := Levels.exists_items_of_getLast?_clauses hlast
    rw [hspelling, hbrace]
    exact .unclosed items rest
  | quoted l q body hb =>
    cases hmissing
    exact .quote l q body hb
  | keyword l k hk =>
    cases hread : k.reverse with
    | nil =>
      obtain rfl : k = [] := List.reverse_eq_nil_iff.1 hread
      cases hmissing
      exact .last l
    | cons c read =>
      rw [hread] at hmissing
      cases hlast : l.clauses.getLast? with
      | none =>
        obtain ⟨items, rfl⟩ :=
          Levels.exists_items_of_clauses_eq_nil (List.getLast?_eq_none_iff.1 hlast)
        cases hmissing
        exact .unclosed items k
      | some outer =>
        obtain ⟨items, rest, hspelling, hbrace⟩ := Levels.exists_items_of_getLast?_clauses hlast
        simp only [missing?, outermostBrace, hlast, Option.some.injEq] at hmissing
        subst hmissing
        rw [hspelling, hbrace, List.append_assoc]
        exact .unclosed items _

theorem Outline.pointsAt_of_refusal {t : Text} {refusal : Refusal}
    (h : (ofText t).refusal = some refusal) : refusal.PointsAt t := by
  rcases cases_of_refusal h with hfeed | ⟨s, hfeed, hmissing⟩
  · obtain ⟨u, c, v, s, rfl, hread, hstep⟩ := Reader.exists_step_of_feed hfeed
    have hreads : Reader.Reads u s := Reader.reads_feed Reader.reads_start hread
    exact hreads.pointsAt_of_step hstep v
  · have hreads : Reader.Reads t s := Reader.reads_feed Reader.reads_start hfeed
    exact hreads.pointsAt_of_missing? hmissing

/-! ### Reading up to a position -/

/-- In levels only the outermost clause is blamed, for not being closed. -/
theorem Levels.outline_eq (l : Levels) :
    Outline.ofText l.spelling =
      ⟨l.events, l.clauses.getLast?.map fun k => ⟨.unterminatedClause, k.brace⟩⟩ := by
  rw [Outline.ofText, l.feed_spelling]
  rfl

/-- An opening brace after levels at which the text stops. -/
theorem Levels.outline_append_brace (l : Levels) :
    Outline.ofText (l.spelling ++ ['\x7b']) =
      ⟨l.events, some ⟨.unterminatedClause, l.spelling.length⟩⟩ := by
  have hbrace : Reader.feed ⟨l.spelling.length, .plain, l.clauses⟩ ['\x7b'] =
      ([], .ok ⟨l.spelling.length + 1, .keyword l.spelling.length [], l.clauses⟩) := rfl
  rw [Outline.ofText, Reader.feed_append_eq l.feed_spelling, hbrace, List.append_nil]
  rfl

/-- What a reader comes upon in levels it comes upon in every text that begins with them. -/
theorem Levels.events_isPrefix (l : Levels) (rest : Text) :
    l.events <+: (Outline.ofText (l.spelling ++ rest)).events := by
  have hbegins := Outline.events_isPrefix l.spelling rest
  rwa [l.outline_eq] at hbegins

/-- No expandable beginning of a text goes past the position of its refusal. -/
theorem Outline.le_position_of_take {t : Text} {refusal : Refusal} {n : Nat}
    (h : (ofText t).refusal = some refusal) (hn : n ≤ t.length)
    (htake : (ofText (t.take n)).refusal = none) : n ≤ refusal.position := by
  have hwhole := ofText_append htake (t.drop n)
  rw [List.take_append_drop, List.length_take, Nat.min_eq_left hn] at hwhole
  rw [hwhole] at h
  obtain ⟨inner, -, rfl⟩ := Option.map_eq_some_iff.1 h
  exact Nat.le_add_left _ _

/-- A clause that closes has its brace behind levels, and the clauses of these levels close before
it does. -/
theorem Outline.exists_levels_of_leave {t : Text} {es fs : List Event} {k : Clause} {depth : Nat}
    (h : (ofText t).events = es ++ .leave k depth :: fs) :
    ∃ (l : Levels) (kw : Keyword) (rest : Text), t = l.spelling ++ '\x7b' :: (kw.text ++ rest) ∧
      (∀ c ∈ rest.head?, isKeywordChar c = false) ∧ k = ⟨l.spelling.length, kw.text⟩ ∧
      l.events <+: es := by
  have hmem : (⟨k, depth⟩ : Closing) ∈ closingsOf (ofText t).events := by simp [h]
  obtain ⟨s, ⟨around, kw, tail, rest, rfl, htail, hclosing, -⟩, hs⟩ :=
    exists_span_of_mem_closings hmem
  rw [hs] at hclosing
  cases hclosing
  refine ⟨around, kw, _, rfl, not_isKeywordChar_of_head? htail rest, rfl, ?_⟩
  have haround := around.events_isPrefix ('\x7b' :: (kw.text ++ (tail.spelling ++ '\x7d' :: rest)))
  rw [h] at haround
  rcases List.prefix_or_prefix_of_prefix haround (List.prefix_append es _) with hle | ⟨more, hmore⟩
  · exact hle
  -- A clause that closes in levels ends in them, and this one begins behind them.
  cases more with
  | nil => exact ⟨[], by rw [← hmore, List.append_nil, List.append_nil]⟩
  | cons e more =>
    rw [← hmore, List.prefix_append_right_inj, List.cons_prefix_cons] at haround
    have hclosed : (⟨⟨around.spelling.length, kw.text⟩, around.clauses.length⟩ : Closing) ∈
        closingsOf around.events := by
      rw [← hmore, haround.1]
      simp
    rw [around.closingsOf_events] at hclosed
    obtain ⟨s', hs', hclosing'⟩ := List.mem_map.1 hclosed
    have hbrace : s'.brace = around.spelling.length := by rw [Span.brace, hclosing']
    have hstop := Levels.bounds_of_mem_spans hs'
    have hlt := (Levels.standsIn_of_mem_spans hs' []).brace_lt_stop
    omega

/-! ### Expanding up to a position -/

section

variable {handlers : Registry σ}

/-- The text is expanded, or all that is wrong with it is that a clause is not closed. -/
def Registry.Tolerates (handlers : Registry σ) (text : Text) (state : σ) : Prop :=
  (∃ out, (expand handlers text state).result = .ok out) ∨
    ∃ e, (expand handlers text state).result = .error (.malformed e) ∧
      e.cause = .unterminatedClause

/-- Levels whose closed clauses are answered are the beginning of a text that is expanded. -/
theorem Levels.tolerates_spelling (l : Levels)
    (hanswers : handlers.AnswersAll l.events) (state : σ) :
    handlers.Tolerates l.spelling state := by
  have houtline := l.outline_eq
  have hanswers' : handlers.AnswersAll (Outline.ofText l.spelling).events := by
    rwa [houtline]
  -- With nothing open the prefix expands; with a clause open it lacks closing braces only.
  cases hlast : l.clauses.getLast? with
  | none =>
    rw [hlast] at houtline
    exact .inl (exists_expand_iff.2 ⟨by rw [houtline]; rfl, hanswers'⟩)
  | some outer =>
    rw [hlast] at houtline
    exact .inr ⟨_, expand_of_refusal (by rw [houtline]; rfl) hanswers' state, rfl⟩

theorem Levels.tolerates_append_brace (l : Levels)
    (hanswers : handlers.AnswersAll l.events) (state : σ) :
    handlers.Tolerates (l.spelling ++ ['\x7b']) state := by
  have houtline := l.outline_append_brace
  exact .inr ⟨_, expand_of_refusal (by rw [houtline]) (by rwa [houtline]) state, rfl⟩

end

/-! ### What an error shows -/

/-- What stands in the text at the position of an error with this cause. -/
def Malformation.ShowsAt (handlers : Registry σ) (text : Text) (p : Nat) : Malformation → Prop
  | unterminatedQuote => ∃ q : Quote, text[p]? = some q.opener ∧ q.closer ∉ text.drop (p + 1)
  | unopenedClause =>
    text[p]? = some '\x7d' ∧
      ∀ state, ∃ out, (expand handlers (text.take p) state).result = .ok out
  | missingKeyword =>
    text[p]? = some '\x7b' ∧
      ∃ c, text[p + 1]? = some c ∧ (Text.isBlank c = true ∨ c = '\x7d')
  | unterminatedClause => text[p]? = some '\x7b'
  | unknownKeyword =>
    ∃ brace, p = brace + 1 ∧ text[brace]? = some '\x7b' ∧
      (text.drop p).takeWhile isKeywordChar ≠ [] ∧
      (text.drop p).takeWhile isKeywordChar ∉ handlers.keys

/-- A refusal points at a place behind levels. -/
theorem Refusal.PointsAt.exists_levels {refusal : Refusal} {t : Text} (h : refusal.PointsAt t) :
    ∃ (l : Levels) (c : Char) (rest : Text), t = l.spelling ++ c :: rest ∧
      refusal.position = l.spelling.length := by
  cases h with
  | quote l q body hb => exact ⟨l, _, _, rfl, rfl⟩
  | unopened items rest => exact ⟨.outermost items, _, _, rfl, rfl⟩
  | missing l c hc rest => exact ⟨l, _, _, rfl, rfl⟩
  | last l => exact ⟨l, _, _, rfl, rfl⟩
  | unclosed items rest => exact ⟨.outermost items, _, _, rfl, rfl⟩

section

variable {handlers : Registry σ}

/-- Items are expanded where they begin a text whose closed clauses are answered. -/
theorem Items.exists_expand_of_answers (items : Items) {rest : Text}
    (hanswers : handlers.AnswersAll (Outline.ofText (items.spelling ++ rest)).events) (state : σ) :
    ∃ out, (expand handlers items.spelling state).result = .ok out :=
  exists_expand_iff.2 ⟨Outline.refusal_eq_none_iff.2 ⟨items, rfl⟩,
    hanswers.of_isPrefix (Outline.events_isPrefix items.spelling rest)⟩

theorem Refusal.PointsAt.showsAt {refusal : Refusal} {t : Text} (h : refusal.PointsAt t)
    (hanswers : handlers.AnswersAll (Outline.ofText t).events) :
    refusal.cause.ShowsAt handlers t refusal.position := by
  cases h with
  | quote l q body hb => exact ⟨q, by simp, by simpa using hb⟩
  | unopened items rest =>
    refine ⟨by simp, fun state => ?_⟩
    -- What stands before the brace is a run of complete items, all of them answered.
    rw [List.take_left]
    exact items.exists_expand_of_answers hanswers state
  | missing l c hc rest => exact ⟨by simp, c, by simp, isKeywordChar_eq_false_iff.1 hc⟩
  | last l =>
    show (l.spelling ++ ['\x7b'])[l.spelling.length]? = some '\x7b'
    simp
  | unclosed items rest =>
    show (items.spelling ++ '\x7b' :: rest)[items.spelling.length]? = some '\x7b'
    simp

/-- An error shows its cause at its position, and nothing before it is wrong. -/
theorem exists_position_of_malformed {text : Text} {state : σ} {e : SyntaxError}
    (h : (expand handlers text state).result = .error (.malformed e)) :
    ∃ p : Nat, e = .ofPosition e.cause text p ∧ p < text.length ∧
      e.cause.ShowsAt handlers text p ∧ ∀ state', handlers.Tolerates (text.take p) state' := by
  rcases cases_of_malformed h with
    ⟨es, k, depth, fs, hevents, hanswers, hkey, rfl⟩ | ⟨refusal, hrefusal, hanswers, rfl⟩
  · obtain ⟨l, kw, rest, rfl, hrest, rfl, hbegins⟩ := Outline.exists_levels_of_leave hevents
    -- An unknown keyword: the position is the one after its brace.
    have hafter : (l.spelling ++ '\x7b' :: (kw.text ++ rest)).drop (l.spelling.length + 1) =
        kw.text ++ rest := List.drop_length_add_append 1
    have hbefore : (l.spelling ++ '\x7b' :: (kw.text ++ rest)).take (l.spelling.length + 1) =
        l.spelling ++ ['\x7b'] := List.take_length_add_append 1
    have hkw := Text.takeWhile_append_of_head? kw.all_isKeywordChar hrest
    refine ⟨l.spelling.length + 1, rfl, ?_, ⟨l.spelling.length, rfl, by simp, ?_⟩, ?_⟩
    · have hpos := List.length_pos_iff.2 kw.ne_nil
      simp
      omega
    · rw [hafter, hkw]
      exact ⟨kw.ne_nil, hkey⟩
    · intro state'
      rw [hbefore]
      -- Every clause closed before the brace was answered, since the events begin with theirs.
      exact l.tolerates_append_brace (hanswers.of_isPrefix hbegins) state'
  · -- A refusal of the reader points into the text by itself.
    have hpoints := Outline.pointsAt_of_refusal hrefusal
    obtain ⟨l, c, rest, rfl, hposition⟩ := hpoints.exists_levels
    refine ⟨refusal.position, rfl, by simp [hposition], hpoints.showsAt hanswers, ?_⟩
    intro state'
    rw [hposition, List.take_left]
    exact l.tolerates_spelling (hanswers.of_isPrefix (l.events_isPrefix _)) state'

end

/-- An error points into the text, at what its cause says, and shows the text from there on. The
text before it is expanded, or all that is wrong with it is that a clause is not closed. -/
theorem expand_error_position (handlers : Registry σ) {text : Text} {state : σ} {e : SyntaxError}
    (h : (expand handlers text state).result = .error (.malformed e)) :
    ∃ p : Nat, e.position = p ∧ p < text.length ∧ e.cause.ShowsAt handlers text p ∧
      (∀ state', handlers.Tolerates (text.take p) state') ∧
      (text.drop p).take 40 ≠ [] ∧
      e.fragment = (text.drop p).take 40 ++
        if 40 < (text.drop p).length then "...".toList else [] := by
  obtain ⟨p, he, hlt, hshows, htolerates⟩ := exists_position_of_malformed h
  refine ⟨p, by rw [he]; rfl, hlt, hshows, htolerates, ?_, ?_⟩
  · intro hnil
    have hlength := congrArg List.length hnil
    simp at hlength
    omega
  · rw [he]
    exact SyntaxError.fragmentAt_natCast text p

/-- A keyword without a handler, in the tail of a clause. -/
theorem expand_error_position_unknown_keyword :
    (expandStandard "\x7blimit \x7btop 1\x7d\x7d".toList).result =
        .error (.malformed (.ofPosition .unknownKeyword "\x7blimit \x7btop 1\x7d\x7d".toList 8)) ∧
      Malformation.unknownKeyword.ShowsAt (Registry.standard : Registry Unit)
        "\x7blimit \x7btop 1\x7d\x7d".toList 8 ∧
      (Registry.standard : Registry Unit).Tolerates "\x7blimit \x7b".toList () := by
  have hresult : (expandStandard "\x7blimit \x7btop 1\x7d\x7d".toList).result =
      .error (.malformed (.ofPosition .unknownKeyword "\x7blimit \x7btop 1\x7d\x7d".toList 8)) := by
    rfl
  obtain ⟨p, hposition, -, hshows, htolerates, -⟩ :=
    expand_error_position Registry.standard hresult
  obtain rfl : 8 = p := Int.natCast_inj.1 hposition
  exact ⟨hresult, hshows, htolerates ()⟩

end EscapeClause
