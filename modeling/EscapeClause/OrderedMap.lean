/-!
# Maps in insertion order

An `OrderedMap` binds each key once and keeps the order in which keys were first inserted:
overwriting a key keeps its place, erasing it and inserting it again puts it last. That order is
what a shown registry, a decoded object and a help table let the reader see, so it is part of the
value.

`keys` and `get?` are the two views. Every operation is pinned by what it does to them
(`keys_insert`, `get?_insert`, `keys_insertMany`, `get?_insertMany`, `keys_ofList`,
`get?_ofList_eq_some_iff`, `keys_erase`, `get?_erase`), and they pin the map (`eq_entries`).
-/

namespace EscapeClause

/-- A finite map that remembers the order of first insertion. -/
structure OrderedMap (α β : Type) where
  /-- The bindings, oldest first. -/
  entries : List (α × β)
  nodup : (entries.map Prod.fst).Nodup

namespace OrderedMap

variable {α β : Type}

@[ext] theorem ext {m n : OrderedMap α β} (h : m.entries = n.entries) : m = n := by
  cases m; cases n; cases h; rfl

protected def empty : OrderedMap α β := ⟨[], by simp⟩

instance : EmptyCollection (OrderedMap α β) := ⟨OrderedMap.empty⟩

instance : Inhabited (OrderedMap α β) := ⟨∅⟩

def keys (m : OrderedMap α β) : List α := m.entries.map Prod.fst

def size (m : OrderedMap α β) : Nat := m.entries.length

theorem nodup_keys (m : OrderedMap α β) : m.keys.Nodup := m.nodup

@[simp] theorem entries_empty : (∅ : OrderedMap α β).entries = [] := rfl

@[simp] theorem keys_empty : (∅ : OrderedMap α β).keys = [] := rfl

/-- The bindings of those keys that have a name by `f`, bound to it. Two keys share no name. -/
def filterMapKeys {γ : Type} (f : α → Option γ)
    (hf : ∀ {a b : α} {c : γ}, f a = some c → f b = some c → a = b) (m : OrderedMap α β) :
    OrderedMap γ β :=
  ⟨m.entries.filterMap fun e => (f e.1).map fun c => (c, e.2), by
    have hnodup : m.entries.Pairwise fun e e' => e.1 ≠ e'.1 := List.pairwise_map.1 m.nodup
    rw [List.Nodup, List.pairwise_map]
    refine hnodup.filterMap _ fun e e' hne b hb b' hb' heq => hne ?_
    obtain ⟨c, hc, rfl⟩ := Option.map_eq_some_iff.1 hb
    obtain ⟨c', hc', rfl⟩ := Option.map_eq_some_iff.1 hb'
    exact hf hc (hc'.trans (congrArg some heq.symm))⟩

variable [DecidableEq α]

/-- The first value that a list of bindings gives to `k`. -/
def lookupEntries (k : α) : List (α × β) → Option β
  | [] => none
  | e :: es => if e.1 = k then some e.2 else lookupEntries k es

def get? (m : OrderedMap α β) (k : α) : Option β := lookupEntries k m.entries

@[simp] theorem get?_empty (a : α) : (∅ : OrderedMap α β).get? a = none := rfl

theorem lookupEntries_isSome (k : α) (es : List (α × β)) :
    (lookupEntries k es).isSome ↔ k ∈ es.map Prod.fst := by
  induction es with
  | nil => simp [lookupEntries]
  | cons e es ih =>
    by_cases h : e.1 = k
    · simp [lookupEntries, h]
    · have hk : ¬ k = e.1 := fun hk => h hk.symm
      simp [lookupEntries, h, hk, ih]

theorem get?_isSome (m : OrderedMap α β) (k : α) : (m.get? k).isSome ↔ k ∈ m.keys :=
  lookupEntries_isSome k m.entries

theorem mem_of_lookupEntries {k : α} {v : β} {es : List (α × β)}
    (h : lookupEntries k es = some v) : (k, v) ∈ es := by
  induction es with
  | nil => cases h
  | cons e es ih =>
    rw [lookupEntries] at h
    split at h
    · next hk =>
      cases h
      rw [← hk]
      exact List.mem_cons_self
    · exact List.mem_cons_of_mem _ (ih h)

/-- The pair that is found stands before all others of its key. -/
theorem lookupEntries_eq_some_iff {k : α} {v : β} {es : List (α × β)} :
    lookupEntries k es = some v ↔
      ∃ before after, es = before ++ (k, v) :: after ∧ k ∉ before.map Prod.fst := by
  constructor
  · intro h
    induction es with
    | nil => cases h
    | cons e es ih =>
      rw [lookupEntries] at h
      by_cases hk : e.1 = k
      · rw [if_pos hk] at h
        cases h
        exact ⟨[], es, by rw [← hk]; rfl, List.not_mem_nil⟩
      · rw [if_neg hk] at h
        -- The first entry has another key and joins what stands before.
        obtain ⟨before, after, rfl, hbefore⟩ := ih h
        refine ⟨e :: before, after, rfl, fun hmem => ?_⟩
        exact (List.mem_cons.1 hmem).elim (fun hke => hk hke.symm) hbefore
  · rintro ⟨before, after, rfl, hbefore⟩
    induction before with
    | nil => exact if_pos rfl
    | cons e before ih =>
      rw [List.map_cons, List.mem_cons, not_or] at hbefore
      rw [List.cons_append, lookupEntries, if_neg (Ne.symm hbefore.1)]
      exact ih hbefore.2

theorem lookupEntries_of_mem {k : α} {v : β} {es : List (α × β)}
    (hnodup : (es.map Prod.fst).Nodup) (h : (k, v) ∈ es) : lookupEntries k es = some v := by
  induction es with
  | nil => cases h
  | cons e es ih =>
    rw [List.map_cons, List.nodup_cons] at hnodup
    rw [lookupEntries]
    rcases List.mem_cons.1 h with rfl | hmem
    · rw [if_pos rfl]
    · -- A second binding of the key would be a duplicate.
      have hne : ¬ e.1 = k := fun he => hnodup.1 (he ▸ List.mem_map_of_mem hmem)
      rw [if_neg hne]
      exact ih hnodup.2 hmem

theorem get?_of_mem_entries {m : OrderedMap α β} {k : α} {v : β} (h : (k, v) ∈ m.entries) :
    m.get? k = some v :=
  lookupEntries_of_mem m.nodup h

theorem mem_entries_of_get? {m : OrderedMap α β} {k : α} {v : β} (h : m.get? k = some v) :
    (k, v) ∈ m.entries :=
  mem_of_lookupEntries h

/-- The pairs are the bindings of a map whose keys they have, in order, with their values. -/
theorem eq_entries {m : OrderedMap α β} {es : List (α × β)} (hkeys : es.map Prod.fst = m.keys)
    (hvalues : ∀ e ∈ es, m.get? e.1 = some e.2) : es = m.entries := by
  -- A list of bindings that the map agrees with is its keys, each looked up again.
  have hlookup {fs : List (α × β)} (h : ∀ e ∈ fs, m.get? e.1 = some e.2) :
      (fs.map Prod.fst).filterMap (fun k => (m.get? k).map fun v => (k, v)) = fs := by
    induction fs with
    | nil => rfl
    | cons e fs ih =>
      rw [List.map_cons, List.filterMap_cons, h e List.mem_cons_self, Option.map_some,
        ih fun e' he' => h e' (List.mem_cons_of_mem e he')]
  rw [← hlookup hvalues, hkeys]
  exact hlookup fun e he => get?_of_mem_entries he

/-! ### Inserting -/

/-- Binds `k` in a list of bindings: in its place if it has one, else at the end. -/
def insertEntries (k : α) (v : β) : List (α × β) → List (α × β)
  | [] => [(k, v)]
  | e :: es => if e.1 = k then (k, v) :: es else e :: insertEntries k v es

theorem map_fst_insertEntries (k : α) (v : β) (es : List (α × β)) :
    (insertEntries k v es).map Prod.fst =
      if k ∈ es.map Prod.fst then es.map Prod.fst else es.map Prod.fst ++ [k] := by
  -- Binding a key adds it at the end or leaves the keys as they are.
  induction es with
  | nil => simp [insertEntries]
  | cons e es ih =>
    by_cases h : e.1 = k
    · simp [insertEntries, h]
    · have hk : ¬ k = e.1 := fun hk => h hk.symm
      rw [insertEntries, if_neg h, List.map_cons, ih, List.map_cons]
      by_cases hm : k ∈ es.map Prod.fst
      · rw [if_pos hm, if_pos (List.mem_cons_of_mem _ hm)]
      · rw [if_neg hm, if_neg fun hk' => (List.mem_cons.1 hk').elim hk hm, List.cons_append]

theorem lookupEntries_insertEntries (k : α) (v : β) (es : List (α × β)) (a : α) :
    lookupEntries a (insertEntries k v es) = if a = k then some v else lookupEntries a es := by
  induction es with
  | nil => simp [insertEntries, lookupEntries, eq_comm]
  | cons e es ih =>
    -- Either the entry is the one that is bound anew, or the binding goes on behind it.
    by_cases h : e.1 = k
    · by_cases ha : a = k
      · simp [insertEntries, lookupEntries, h, ha]
      · have hka : ¬ k = a := fun hk => ha hk.symm
        simp [insertEntries, lookupEntries, h, ha, hka]
    · by_cases hae : e.1 = a
      · have hak : ¬ a = k := fun hk => h (hae.trans hk)
        simp [insertEntries, lookupEntries, hae, hak]
      · simp [insertEntries, lookupEntries, h, hae, ih]

/-- Binds `k` to `v`; a key that is bound already keeps its place. -/
def insert (m : OrderedMap α β) (k : α) (v : β) : OrderedMap α β :=
  ⟨insertEntries k v m.entries, by
    rw [map_fst_insertEntries]
    split
    · exact m.nodup
    · next h =>
      refine List.nodup_append.2 ⟨m.nodup, by simp, ?_⟩
      intro a ha b hb hab
      rw [List.mem_singleton] at hb
      exact h (hb ▸ hab ▸ ha)⟩

theorem keys_insert (m : OrderedMap α β) (k : α) (v : β) :
    (m.insert k v).keys = if k ∈ m.keys then m.keys else m.keys ++ [k] :=
  map_fst_insertEntries k v m.entries

theorem get?_insert (m : OrderedMap α β) (k : α) (v : β) (a : α) :
    (m.insert k v).get? a = if a = k then some v else m.get? a :=
  lookupEntries_insertEntries k v m.entries a

/-- Binds pairs one after the other, so that of two pairs with one key the later one counts. -/
def insertMany (m : OrderedMap α β) (pairs : List (α × β)) : OrderedMap α β :=
  pairs.foldl (fun acc e => acc.insert e.1 e.2) m

theorem insertMany_append (m : OrderedMap α β) (pairs more : List (α × β)) :
    m.insertMany (pairs ++ more) = (m.insertMany pairs).insertMany more :=
  List.foldl_append

theorem lookupEntries_append (a : α) (es fs : List (α × β)) :
    lookupEntries a (es ++ fs) = (lookupEntries a es).or (lookupEntries a fs) := by
  induction es with
  | nil => rfl
  | cons e es ih =>
    rw [List.cons_append, lookupEntries, lookupEntries]
    split
    · rfl
    · exact ih

/-- Of several pairs with one key the last one counts. -/
theorem get?_insertMany (m : OrderedMap α β) (pairs : List (α × β)) (a : α) :
    (m.insertMany pairs).get? a = (lookupEntries a pairs.reverse).or (m.get? a) := by
  induction pairs generalizing m with
  | nil => rfl
  | cons e es ih =>
    have hcons : m.insertMany (e :: es) = (m.insert e.1 e.2).insertMany es := rfl
    -- The list is read from its end, since the later one of two pairs counts.
    rw [hcons, ih, List.reverse_cons, lookupEntries_append, get?_insert, Option.or_assoc]
    congr 1
    by_cases h : a = e.1
    · simp [lookupEntries, h]
    · have h' : ¬ e.1 = a := fun h' => h h'.symm
      simp [lookupEntries, h, h']

/-- The bindings of a map count before those of the map they are added to. -/
theorem get?_insertMany_entries (m n : OrderedMap α β) (a : α) :
    (m.insertMany n.entries).get? a = (n.get? a).or (m.get? a) := by
  rw [get?_insertMany]
  congr 1
  refine Option.ext fun v => ⟨fun h => ?_, fun h => ?_⟩
  · exact get?_of_mem_entries (List.mem_reverse.1 (mem_of_lookupEntries h))
  · refine lookupEntries_of_mem ?_ (List.mem_reverse.2 (mem_entries_of_get? h))
    rw [List.map_reverse]
    exact (List.reverse_perm _).nodup_iff.2 n.nodup

section Keys

-- Lists of keys may have a test of equality of their own, so these hold for every test.
variable [BEq α] [LawfulBEq α]

omit [DecidableEq α] in
theorem eraseDups_of_nodup {ks : List α} (h : ks.Nodup) : ks.eraseDups = ks := by
  induction ks with
  | nil => rfl
  | cons k ks ih =>
    obtain ⟨hk, hks⟩ := List.nodup_cons.1 h
    have hfilter : ks.filter (fun k' => !k' == k) = ks := by
      refine List.filter_eq_self.2 fun k' hk' => ?_
      simp only [Bool.not_eq_true', beq_eq_false_iff_ne]
      rintro rfl
      exact hk hk'
    rw [List.eraseDups_cons, hfilter, ih hks]

/-- A key is in the place where it comes first. -/
theorem keys_insertMany (m : OrderedMap α β) (pairs : List (α × β)) :
    (m.insertMany pairs).keys = (m.keys ++ pairs.map Prod.fst).eraseDups := by
  induction pairs generalizing m with
  | nil =>
    rw [List.map_nil, List.append_nil, eraseDups_of_nodup m.nodup_keys]
    rfl
  | cons e es ih =>
    have hcons : m.insertMany (e :: es) = (m.insert e.1 e.2).insertMany es := rfl
    rw [hcons, ih, keys_insert, List.map_cons]
    -- A key that is known already adds nothing to the order.
    by_cases h : e.1 ∈ m.keys
    · rw [if_pos h, List.eraseDups_append, List.eraseDups_append, List.cons_removeAll,
        if_neg (by simpa using h)]
    · rw [if_neg h, List.append_assoc, List.singleton_append]

/-- All keys are bound to one value. -/
theorem get?_insertMany_const (m : OrderedMap α β) (ks : List α) (v : β) (a : α) :
    (m.insertMany (ks.map fun k => (k, v))).get? a = if a ∈ ks then some v else m.get? a := by
  induction ks generalizing m with
  | nil => rfl
  | cons k ks ih =>
    have hcons : m.insertMany ((k :: ks).map fun k' => (k', v)) =
        (m.insert k v).insertMany (ks.map fun k' => (k', v)) := rfl
    rw [hcons, ih, get?_insert]
    by_cases hmem : a ∈ ks
    · rw [if_pos hmem, if_pos (List.mem_cons_of_mem _ hmem)]
    · rw [if_neg hmem]
      by_cases hk : a = k
      · rw [if_pos hk, if_pos (List.mem_cons.2 (.inl hk))]
      · rw [if_neg hk, if_neg fun h => (List.mem_cons.1 h).elim hk hmem]

end Keys

/-- The map of a list of pairs: first place, last value. -/
def ofList (pairs : List (α × β)) : OrderedMap α β := (∅ : OrderedMap α β).insertMany pairs

theorem keys_ofList [BEq α] [LawfulBEq α] (pairs : List (α × β)) :
    (ofList pairs).keys = (pairs.map Prod.fst).eraseDups := by
  rw [ofList, keys_insertMany, keys_empty, List.nil_append]

/-- A key is bound to what its last pair gives to it. -/
theorem get?_ofList_eq_some_iff {pairs : List (α × β)} {k : α} {v : β} :
    (ofList pairs).get? k = some v ↔
      ∃ before after, pairs = before ++ (k, v) :: after ∧ k ∉ after.map Prod.fst := by
  rw [ofList, get?_insertMany, get?_empty, Option.or_none, lookupEntries_eq_some_iff]
  -- The last binding of a key is the first one of the reversed list.
  constructor
  · rintro ⟨before, after, h, hbefore⟩
    refine ⟨after.reverse, before.reverse, ?_, ?_⟩
    · rw [← List.reverse_reverse pairs, h, List.reverse_append, List.reverse_cons,
        List.append_assoc, List.singleton_append]
    · rwa [List.map_reverse, List.mem_reverse]
  · rintro ⟨before, after, rfl, hafter⟩
    refine ⟨after.reverse, before.reverse, ?_, ?_⟩
    · rw [List.reverse_append, List.reverse_cons, List.append_assoc, List.singleton_append]
    · rwa [List.map_reverse, List.mem_reverse]

/-! ### Erasing -/

def erase (m : OrderedMap α β) (k : α) : OrderedMap α β :=
  ⟨m.entries.filter (·.1 ≠ k), by
    exact m.nodup.sublist (List.filter_sublist.map Prod.fst)⟩

theorem keys_erase (m : OrderedMap α β) (k : α) : (m.erase k).keys = m.keys.filter (· ≠ k) := by
  simp [keys, erase, List.filter_map, Function.comp_def]

theorem lookupEntries_filter_ne (k a : α) (es : List (α × β)) :
    lookupEntries a (es.filter (·.1 ≠ k)) = if a = k then none else lookupEntries a es := by
  induction es with
  | nil => simp [lookupEntries]
  | cons e es ih =>
    -- Only what is bound to `k` is dropped, and only a look-up of `k` notices.
    by_cases he : e.1 = k
    · rw [List.filter_cons_of_neg (by simp [he]), ih, lookupEntries]
      by_cases ha : a = k
      · rw [if_pos ha, if_pos ha]
      · rw [if_neg ha, if_neg ha, if_neg fun hea => ha (hea.symm.trans he)]
    · rw [List.filter_cons_of_pos (by simp [he]), lookupEntries, ih, lookupEntries]
      by_cases hae : e.1 = a
      · rw [if_pos hae, if_neg fun hak => he (hae.trans hak), if_pos hae]
      · rw [if_neg hae, if_neg hae]

theorem get?_erase (m : OrderedMap α β) (k a : α) :
    (m.erase k).get? a = if a = k then none else m.get? a :=
  lookupEntries_filter_ne k a m.entries

def contains (m : OrderedMap α β) (k : α) : Bool := (m.get? k).isSome

theorem contains_iff {m : OrderedMap α β} {k : α} : m.contains k = true ↔ k ∈ m.keys :=
  get?_isSome m k

end OrderedMap

end EscapeClause
