import EscapeClause.Proofs.SingleCall

/-!
# The one reading of a call

`ScalarCall.ofText?` reads a text as a call without a search. A search has choices: how much of the
text is the name, how much of what follows is white space, whether there is a group and at which
parenthesis it ends. `ScalarCall.readings` are the calls that a search comes upon which prefers the
longer stretch and tries the shorter ones after it. There is never more than one, so it does not
matter what is tried first (`ScalarCall.mem_readings_iff`).

The main statement is `process_scalarFunction_parts`: a text is made up of a name, white space and
a group in at most one way (`CallParts`), and what the function handler answers depends on the name
and the group alone.
-/

namespace EscapeClause

/-- A name, white space, and a text in parentheses or nothing make up the text. -/
structure CallParts (t name gap group : Text) : Prop where
  name_ne_nil : name ≠ []
  all_isNameChar : ∀ c ∈ name, ScalarCall.isNameChar c = true
  all_isBlank : ∀ c ∈ gap, Text.isBlank c = true
  /-- One parenthesis is not a group. -/
  isGroup : group = [] ∨ 2 ≤ group.length ∧ group.head? = some '(' ∧ group.getLast? = some ')'
  append_eq : name ++ gap ++ group = t

namespace ScalarCall

/-! ### Parts -/

theorem exists_enclose_iff {group : Text} :
    (∃ inner, enclose inner = group) ↔
      group = [] ∨ 2 ≤ group.length ∧ group.head? = some '(' ∧ group.getLast? = some ')' := by
  constructor
  · rintro ⟨inner, rfl⟩
    cases inner with
    | none => exact .inl rfl
    | some inner => exact .inr ⟨by simp [enclose], rfl, List.getLast?_concat⟩
  · rintro (rfl | ⟨hlength, hhead, hlast⟩)
    · exact ⟨none, rfl⟩
    · obtain ⟨r, rfl⟩ := List.head?_eq_some_iff.1 hhead
      cases r with
      -- One parenthesis would have to be both ends of the group.
      | nil => simp at hlength
      | cons c r =>
        rw [List.getLast?_cons_cons] at hlast
        obtain ⟨inner, hinner⟩ := List.getLast?_eq_some_iff.1 hlast
        exact ⟨some inner, by rw [hinner]; rfl⟩

theorem Writes.callParts {call : ScalarCall} {t : Text} (h : call.Writes t) :
    CallParts t call.name call.gap call.group where
  name_ne_nil := h.name_ne_nil
  all_isNameChar := h.all_isNameChar
  all_isBlank := h.all_isBlank
  isGroup := exists_enclose_iff.1 ⟨call.inner, rfl⟩
  append_eq := h.spelling_eq

end ScalarCall

/-- Parts are those of a call. -/
theorem CallParts.exists_writes {t name gap group : Text} (h : CallParts t name gap group) :
    ∃ inner, ScalarCall.enclose inner = group ∧
      (⟨name, gap, inner⟩ : ScalarCall).Writes t := by
  obtain ⟨inner, rfl⟩ := ScalarCall.exists_enclose_iff.2 h.isGroup
  exact ⟨inner, rfl, h.name_ne_nil, h.all_isNameChar, h.all_isBlank, h.append_eq⟩

theorem CallParts.unique {t name gap group name' gap' group' : Text}
    (h : CallParts t name gap group) (h' : CallParts t name' gap' group') :
    name' = name ∧ gap' = gap ∧ group' = group := by
  obtain ⟨inner, rfl, hw⟩ := h.exists_writes
  obtain ⟨inner', rfl, hw'⟩ := h'.exists_writes
  obtain ⟨rfl, rfl, rfl⟩ := ScalarCall.mk.inj (hw'.unique hw)
  exact ⟨rfl, rfl, rfl⟩

namespace ScalarCall

/-! ### A search -/

/-- The same ways to take a stretch, `c` taken before it. -/
def taking (c : Char) (ways : List (Text × Text)) : List (Text × Text) :=
  ways.map fun way => (c :: way.1, way.2)

/-- The ways to take a stretch of a class from the start of a text, the longest one first, each
with what follows it. -/
def stretches (p : Char → Bool) : Text → List (Text × Text)
  | [] => [([], [])]
  | c :: r => (if p c then taking c (stretches p r) else []) ++ [([], c :: r)]

/-- The ways to end a group whose first parenthesis is read, the last parenthesis first. -/
def endings : Text → List (Text × Text)
  | [] => []
  | c :: r => taking c (endings r) ++ if c = ')' then [([], r)] else []

/-- The ways to take a group from the start of a text, and then the way to take none. -/
def groups : Text → List (Option Text × Text)
  | [] => [(none, [])]
  | c :: r =>
    (if c = '(' then (endings r).map fun s => (some s.1, s.2) else []) ++ [(none, c :: r)]

/-- The ways to read a whole text as a call, in the order in which they are tried. -/
def readings (t : Text) : List ScalarCall :=
  (stretches isNameChar t).flatMap fun name =>
    (stretches Text.isBlank name.2).flatMap fun gap =>
      (groups gap.2).filterMap fun group =>
        if name.1 ≠ [] ∧ group.2 = [] then some ⟨name.1, gap.1, group.1⟩ else none

theorem mem_taking_iff {c : Char} {ways : List (Text × Text)} {s r : Text} :
    (s, r) ∈ taking c ways ↔ ∃ s', s = c :: s' ∧ (s', r) ∈ ways := by
  simp only [taking, List.mem_map, Prod.exists, Prod.mk.injEq]
  constructor
  · rintro ⟨s', r', hway, rfl, rfl⟩
    exact ⟨s', rfl, hway⟩
  · rintro ⟨s', rfl, hway⟩
    exact ⟨s', r, hway, rfl, rfl⟩

theorem mem_stretches_iff {p : Char → Bool} {t s r : Text} :
    (s, r) ∈ stretches p t ↔ s ++ r = t ∧ ∀ c ∈ s, p c = true := by
  induction t generalizing s with
  | nil =>
    rw [stretches, List.mem_singleton, Prod.mk.injEq, List.append_eq_nil_iff]
    refine ⟨fun h => ⟨h, ?_⟩, And.left⟩
    rw [h.1]
    exact List.forall_mem_nil _
  | cons c t ih =>
    rw [stretches, List.mem_append, List.mem_singleton, Prod.mk.injEq]
    cases s with
    | nil =>
      -- The empty stretch is tried last and comes from nowhere else.
      have hnone : ([], r) ∉ (if p c then taking c (stretches p t) else []) := by
        split <;> simp [mem_taking_iff]
      rw [or_iff_right hnone]
      simp
    | cons d s =>
      -- A longer stretch takes the first code point and then a stretch of the rest.
      rw [or_iff_left (by simp), List.cons_append, List.cons.injEq, List.forall_mem_cons]
      split
      · next hc =>
        rw [mem_taking_iff]
        constructor
        · rintro ⟨s', hs, hway⟩
          obtain ⟨rfl, rfl⟩ := List.cons.inj hs
          exact ⟨⟨rfl, (ih.1 hway).1⟩, hc, (ih.1 hway).2⟩
        · rintro ⟨⟨rfl, heq⟩, -, hs⟩
          exact ⟨s, rfl, ih.2 ⟨heq, hs⟩⟩
      · next hc =>
        refine iff_of_false (by simp) ?_
        rintro ⟨⟨rfl, -⟩, hd, -⟩
        exact hc hd

theorem mem_endings_iff {t s r : Text} : (s, r) ∈ endings t ↔ s ++ ')' :: r = t := by
  induction t generalizing s with
  | nil => simp [endings]
  | cons c t ih =>
    rw [endings, List.mem_append, mem_taking_iff]
    cases s with
    | nil =>
      -- The group ends here only at a closing parenthesis.
      rw [or_iff_right (by simp)]
      split
      · next hc => simp [hc]
      · next hc => simp [Ne.symm hc]
    | cons d s =>
      have hlast : (d :: s, r) ∉ (if c = ')' then [([], t)] else []) := by
        split <;> simp
      rw [or_iff_left hlast, List.cons_append, List.cons.injEq]
      constructor
      · rintro ⟨s', hs, hway⟩
        obtain ⟨rfl, rfl⟩ := List.cons.inj hs
        exact ⟨rfl, ih.1 hway⟩
      · rintro ⟨rfl, heq⟩
        exact ⟨s, rfl, ih.2 heq⟩

theorem mem_groups_iff {t r : Text} {inner : Option Text} :
    (inner, r) ∈ groups t ↔ enclose inner ++ r = t := by
  cases t with
  | nil => cases inner <;> simp [groups, enclose]
  | cons c t =>
    rw [groups, List.mem_append, List.mem_singleton]
    cases inner with
    | none =>
      -- Taking no group is the way that is tried last.
      have hgroup : (none, r) ∉
          (if c = '(' then (endings t).map fun s => (some s.1, s.2) else []) := by
        split <;> simp
      rw [or_iff_right hgroup]
      simp [enclose]
    | some inner =>
      rw [or_iff_left (by simp)]
      split
      · next hc => simp [enclose, mem_endings_iff, hc]
      · next hc => simp [enclose, Ne.symm hc]

/-- What a search comes upon is the call that the text is. -/
theorem mem_readings_iff {call : ScalarCall} {t : Text} : call ∈ readings t ↔ call.Writes t := by
  obtain ⟨name, gap, inner⟩ := call
  simp only [readings, List.mem_flatMap, List.mem_filterMap, Prod.exists, mem_stretches_iff,
    mem_groups_iff, Option.ite_none_right_eq_some, Option.some.injEq, mk.injEq]
  constructor
  · rintro ⟨_, _, ⟨rfl, hname⟩, _, _, ⟨rfl, hgap⟩, _, _, rfl, ⟨hne, rfl⟩, rfl, rfl, rfl⟩
    exact ⟨hne, hname, hgap, by simp [spelling, group]⟩
  · intro h
    refine ⟨name, gap ++ enclose inner, ⟨?_, h.all_isNameChar⟩, gap, enclose inner,
      ⟨rfl, h.all_isBlank⟩, inner, [], List.append_nil _, ⟨h.name_ne_nil, rfl⟩, rfl, rfl, rfl⟩
    rw [← h.spelling_eq, spelling, group, List.append_assoc]

/-! ### What the parts decide -/

theorem lookup_renamedFunctions :
    ∀ entry ∈ renamedFunctions, renamedFunctions.lookup entry.1 = some entry.2 := by
  decide

theorem sqlite_of_mem_renamedFunctions {call : ScalarCall} {renamed : Text}
    (h : (Text.upperAscii call.name, renamed) ∈ renamedFunctions) :
    call.sqlite = renamed ++ call.group := by
  simp only [sqlite, lookup_renamedFunctions _ h]

theorem sqlite_of_concat {name gap inner : Text} (h : Text.upperAscii name = "CONCAT".toList) :
    (⟨name, gap, some inner⟩ : ScalarCall).sqlite = Text.join " || ".toList (fields inner) := by
  have hconcat : IsConcatenation ⟨name, gap, some inner⟩ := ⟨h, rfl⟩
  obtain ⟨_, hinner, hsqlite⟩ := hconcat.exists_inner
  cases hinner
  exact hsqlite

theorem IsRenamed.mem_names {call : ScalarCall} (h : call.IsRenamed) :
    Text.upperAscii call.name ∈ renamedFunctions.map Prod.fst := by
  obtain ⟨entry, hentry, hname, -⟩ := h.exists_entry
  rw [hname]
  exact List.mem_map_of_mem hentry

end ScalarCall

/-- A text is made up of a name, white space and a group or nothing in at most one way, and that is
all that a search for such parts comes upon. The function handler always answers. It leaves a text
without parts as it is. Otherwise the name, in capital letters, decides: a function that has
another name gets that name before its group, the user function becomes an empty string literal,
and a concatenation with a group becomes the fields of the inside, joined by the operator; a text
with any other name is left as it is. -/
theorem process_scalarFunction_parts {σ : Type} (keyword args : Text) (state : σ) :
    (∀ name gap group name' gap' group', CallParts args name gap group →
      CallParts args name' gap' group' → name' = name ∧ gap' = gap ∧ group' = group) ∧
    (∀ call : ScalarCall, call ∈ ScalarCall.readings args ↔
      CallParts args call.name call.gap call.group) ∧
    ∃ out, (Handler.scalarFunction : Handler σ).process keyword args state = some (out, state) ∧
      ((∀ name gap group, ¬ CallParts args name gap group) → out = args) ∧
      ∀ name gap group, CallParts args name gap group →
        let capitals := Text.upperAscii name
        (∀ renamed, (capitals, renamed) ∈ renamedFunctions → out = renamed ++ group) ∧
        (capitals = "USER".toList → out = "''".toList) ∧
        (capitals = "CONCAT".toList → group ≠ [] →
          out = Text.join " || ".toList (fields group.tail.dropLast)) ∧
        (capitals ∉ renamedFunctions.map Prod.fst → capitals ≠ "USER".toList →
          (capitals = "CONCAT".toList → group = []) → out = args) := by
  refine ⟨fun _ _ _ _ _ _ h h' => h.unique h', ?_, sqliteCall args, rfl, ?_, ?_⟩
  · intro call
    rw [ScalarCall.mem_readings_iff]
    refine ⟨fun h => h.callParts, fun h => ?_⟩
    exact ⟨h.name_ne_nil, h.all_isNameChar, h.all_isBlank, h.append_eq⟩
  · intro hnone
    exact sqliteCall_of_not_writes fun call hw => hnone _ _ _ hw.callParts
  · intro name gap group hparts capitals
    obtain ⟨inner, rfl, hw⟩ := hparts.exists_writes
    rw [sqliteCall_of_writes hw]
    refine ⟨fun renamed hrenamed => ScalarCall.sqlite_of_mem_renamedFunctions hrenamed,
      fun huser => ScalarCall.IsUser.sqlite_eq huser, ?_, ?_⟩
    · intro hconcat hgroup
      cases inner with
      | none => exact absurd rfl hgroup
      | some inner =>
        rw [ScalarCall.sqlite_of_concat hconcat, ScalarCall.enclose, List.cons_append,
          List.tail_cons, List.dropLast_concat]
    · -- None of the three rewritings applies, so the call is spelled as it was.
      intro hrenamed huser hconcat
      refine (ScalarCall.sqlite_of_not_isRewritten ?_).trans hw.spelling_eq
      rintro (hr | hu | ⟨hc, hinner⟩)
      · exact hrenamed hr.mem_names
      · exact huser hu
      · cases inner with
        | none => cases hinner
        | some inner => exact absurd (hconcat hc) (List.cons_ne_nil _ _)

/-- Lines are broken before the group and inside it. -/
theorem process_scalarFunction_parts_lines :
    CallParts "Concat \n(a,\n f(b, c))".toList "Concat".toList " \n".toList
        "(a,\n f(b, c))".toList ∧
      (Handler.scalarFunction : Handler Unit).process "fn".toList
        "Concat \n(a,\n f(b, c))".toList () = some ("a || f(b, c)".toList, ()) := by
  have hparts : CallParts "Concat \n(a,\n f(b, c))".toList "Concat".toList " \n".toList
      "(a,\n f(b, c))".toList :=
    ⟨by decide, List.all_eq_true.1 (by decide), List.all_eq_true.1 (by decide), .inr (by decide),
      by decide⟩
  obtain ⟨-, -, out, hprocess, -, hout⟩ :=
    process_scalarFunction_parts "fn".toList "Concat \n(a,\n f(b, c))".toList ()
  refine ⟨hparts, hprocess.trans ?_⟩
  rw [(hout _ _ _ hparts).2.2.1 (by decide) (by decide)]
  decide

end EscapeClause
