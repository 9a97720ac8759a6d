import EscapeClause.Proofs.Skeleton

/-!
# Where the handlers of a registry come from

A registry is assembled from four sources, and of two sources that bind one keyword the later one
decides the handler while the earlier one decides the place. So a keyword has the handler of the
strongest source that names it (`Registry.get?_assemble`), and the keywords stand in the order in
which the sources first name them (`Registry.keys_assemble`).

Expanding asks a registry for handlers and for nothing else (`expand_congr`). What two lists of
sources say of the keywords is therefore all that matters to a text (`RegistrySources.SayAlike`):
neither the order nor the number of times in which a source names its keywords does, and a text
that is expanded meets none of the keywords that are registered later.
-/

namespace EscapeClause

variable {σ : Type}

/-- Registries that bind alike expand alike, whatever the order of their keywords. -/
theorem expand_congr {handlers handlers' : Registry σ}
    (h : ∀ k, handlers'.get? k = handlers.get? k) (text : Text) (state : σ) :
    expand handlers' text state = expand handlers text state := by
  have hdraft : (Draft.start state).applyAll handlers' (Outline.ofText text).events =
      (Draft.start state).applyAll handlers (Outline.ofText text).events :=
    Draft.applyAll_congr fun c _ => h c.clause.keyword
  simp only [expand, hdraft]

namespace RegistrySources

def start (s : RegistrySources σ) : Registry σ := if s.defaults then Registry.standard else ∅

/-- The keywords that the sources name, from the weakest source to the strongest one. -/
def named (s : RegistrySources σ) : List Text :=
  s.start.keys ++ s.extra.keys ++ s.echoed ++ s.dropped

def handler? (s : RegistrySources σ) (k : Text) : Option (Handler σ) :=
  if k ∈ s.dropped then some (.echo false)
  else if k ∈ s.echoed then some (.echo true)
  else (s.extra.get? k).or (s.start.get? k)

/-- Every source of one list says of the keyword what the same source of the other list says. -/
structure SayAlike (s s' : RegistrySources σ) (k : Text) : Prop where
  start : s'.start.get? k = s.start.get? k
  extra : s'.extra.get? k = s.extra.get? k
  echoed : k ∈ s'.echoed ↔ k ∈ s.echoed
  dropped : k ∈ s'.dropped ↔ k ∈ s.dropped

end RegistrySources

namespace Registry

theorem keys_assemble (s : RegistrySources σ) : (assemble s).keys = s.named.eraseDups := by
  have hfst : ∀ (includeKeyword : Bool) (ks : List Text),
      (ks.map fun k => (k, (Handler.echo includeKeyword : Handler σ))).map Prod.fst = ks := by
    intro includeKeyword ks
    rw [List.map_map]
    exact List.map_id ks
  show OrderedMap.keys (((s.start.insertMany s.extra.entries).insertMany _).insertMany _) = _
  rw [← OrderedMap.insertMany_append, ← OrderedMap.insertMany_append, OrderedMap.keys_insertMany,
    List.map_append, List.map_append, hfst, hfst, ← List.append_assoc, ← List.append_assoc]
  rfl

theorem get?_assemble (s : RegistrySources σ) (k : Text) :
    (assemble s).get? k = s.handler? k := by
  show OrderedMap.get? (((s.start.insertMany s.extra.entries).insertMany _).insertMany _) k = _
  rw [OrderedMap.get?_insertMany_const, OrderedMap.get?_insertMany_const,
    OrderedMap.get?_insertMany_entries]
  rfl

/-- A keyword of which two lists of sources say the same is bound alike by both. -/
theorem get?_assemble_of_sayAlike {s s' : RegistrySources σ} {k : Text} (h : s.SayAlike s' k) :
    (assemble s').get? k = (assemble s).get? k := by
  rw [get?_assemble, get?_assemble, RegistrySources.handler?, RegistrySources.handler?, h.start,
    h.extra]
  exact if_congr h.dropped rfl (if_congr h.echoed rfl rfl)

/-- A registry has the keywords that its sources name, in the order in which they are first named,
and each has the handler of the strongest source that names it. So no text is expanded differently
when the keywords to echo or to drop are named in another order or another number of times, and a
text that is expanded stays as it is when only keywords are added that were not registered. -/
theorem assemble_by_precedence (s : RegistrySources σ) :
    (assemble s).keys = s.named.eraseDups ∧
    (∀ k, (assemble s).get? k = s.handler? k) ∧
    (∀ echoed dropped : List Text,
      (∀ k, k ∈ echoed ↔ k ∈ s.echoed) → (∀ k, k ∈ dropped ↔ k ∈ s.dropped) →
      ∀ text state, expand (assemble { s with echoed := echoed, dropped := dropped }) text state =
        expand (assemble s) text state) ∧
    ∀ s' : RegistrySources σ, (∀ k ∈ (assemble s).keys, s.SayAlike s' k) →
      ∀ text state out, (expand (assemble s) text state).result = .ok out →
        expand (assemble s') text state = expand (assemble s) text state := by
  refine ⟨keys_assemble s, get?_assemble s, ?_, ?_⟩
  · -- The two lists matter through membership only, keyword by keyword.
    intro echoed dropped hechoed hdropped text state
    refine expand_congr (fun k => get?_assemble_of_sayAlike ?_) text state
    exact ⟨rfl, rfl, hechoed k, hdropped k⟩
  · intro s' hsay text state out hout
    -- A successful run asks for keywords of `assemble s` only, and on those both agree.
    have hagree : ∀ k ∈ (assemble s).keys, (assemble s').get? k = (assemble s).get? k :=
      fun k hk => get?_assemble_of_sayAlike (hsay k hk)
    exact expand_eq_of_agree hagree (.inl ⟨out, hout⟩)

/-- Sources that overlap: a standard keyword with a handler of its own, another one echoed twice,
and a keyword that three sources name. -/
theorem assemble_by_precedence_overlap :
    let s : RegistrySources Unit :=
      { extra := OrderedMap.ofList [("limit".toList, .scalarFunction), ("x".toList, .echo true)]
        echoed := ["d".toList, "x".toList, "d".toList]
        dropped := ["top".toList, "x".toList] }
    let s' : RegistrySources Unit := { s with dropped := "new".toList :: s.dropped }
    (assemble s).keys = ["limit".toList, "escape".toList, "fn".toList, "d".toList, "t".toList,
      "ts".toList, "oj".toList, "x".toList, "top".toList] ∧
    (assemble s).get? "limit".toList = some .scalarFunction ∧
    (assemble s).get? "d".toList = some (.echo true) ∧
    (assemble s).get? "x".toList = some (.echo false) ∧
    (expand (assemble s') "\x7bd \x7bx 1\x7d\x7d".toList ()).result = .ok "d 1".toList := by
  intro s s'
  obtain ⟨hkeys, hget, -, hadded⟩ := assemble_by_precedence s
  have hnamed : s.named.eraseDups = ["limit".toList, "escape".toList, "fn".toList, "d".toList,
      "t".toList, "ts".toList, "oj".toList, "x".toList, "top".toList] := by decide
  have hresult : (expand (assemble s) "\x7bd \x7bx 1\x7d\x7d".toList ()).result =
      .ok "d 1".toList := by rfl
  have hsay : ∀ k ∈ (assemble s).keys, s.SayAlike s' k := by
    intro k hk
    have hne : k ≠ "new".toList := by
      rintro rfl
      rw [hkeys, hnamed] at hk
      exact absurd hk (by decide)
    exact ⟨rfl, rfl, Iff.rfl, fun h => (List.mem_cons.1 h).resolve_left hne,
      List.mem_cons_of_mem _⟩
  refine ⟨hkeys.trans hnamed, (hget _).trans rfl, (hget _).trans rfl, (hget _).trans rfl, ?_⟩
  rw [hadded s' hsay _ _ _ hresult]
  exact hresult

end Registry

end EscapeClause
