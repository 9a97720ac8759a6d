import EscapeClause.Session

/-!
# Registries are shared by reference and never by accident

Names and parsers stand for registries by reference. A session keeps three facts: every reference
leads to a registry that exists, two names never stand for one registry, and a new registry stands
where none stood before. So a registry changes only by an edit under the one name that it has, it
does not change any more once that name stands for another one, and a parser keeps the registry it
was made for.

`run_effect` says once what a step can do to the registries, the names and the parsers; what holds
of a step is read off its cases, and what holds along steps follows by induction.
-/

namespace EscapeClause

/-- What a step works on when it succeeds. -/
inductive Target
  /-- It changes no registry, no name and no parser. -/
  | nothing
  | edit (name : Text)
  | registry (name : Text)
  | parser (name : Text)

namespace Step

def target : Step → Target
  | .build name .. => .registry name
  | .load name .. => .registry name
  | .set name .. => .edit name
  | .erase name .. => .edit name
  | .makeParser name _ => .parser name
  | .setStandard => .nothing
  | .showStandard => .nothing
  | .parse .. => .nothing
  | .split .. => .nothing
  | .expand .. => .nothing
  | .setQuiet _ => .nothing

/-- What a step that edits a registry makes of it. A script is counted under the given number. -/
def change (script : Nat) : Step → Registry Tally → Registry Tally
  | .set _ keyword spec, registry => registry.insert keyword (spec.handler script)
  | .erase _ keyword, registry => registry.erase keyword
  | _, registry => registry

end Step

namespace Session

def start (quiet : Bool) : Session := { quiet := quiet }

def after (s : Session) : List Step → Session
  | [] => s
  | step :: steps => (s.run step).session.after steps

@[simp] theorem after_cons (s : Session) (step : Step) (steps : List Step) :
    s.after (step :: steps) = (s.run step).session.after steps := rfl

/-- Every one of these steps, in the session in which it is done, has the property. -/
def Along (P : Session → Step → Prop) : Session → List Step → Prop
  | _, [] => True
  | s, step :: steps => P s step ∧ Along P (s.run step).session steps

/-! ### References -/

def refOf (s : Session) (name : Text) : Option RegistryRef := (s.names.get? name).map .made

/-- The reference that a parser is made for: that of the name, or the standard one. -/
def sourceOf (s : Session) : Option Text → Option RegistryRef
  | none => some .standard
  | some name => s.refOf name

def Has (s : Session) : RegistryRef → Prop
  | .standard => True
  | .made index => index < s.registries.length

theorem refOf_eq_some_iff {s : Session} {name : Text} {ref : RegistryRef} :
    s.refOf name = some ref ↔ ∃ index, s.names.get? name = some index ∧ ref = .made index := by
  rw [refOf, Option.map_eq_some_iff]
  constructor
  · rintro ⟨index, hindex, rfl⟩
    exact ⟨index, hindex, rfl⟩
  · rintro ⟨index, hindex, rfl⟩
    exact ⟨index, hindex, rfl⟩

theorem refOf_make (s : Session) (name : Text) (registry : Registry Tally) (other : Text) :
    (s.make name registry).refOf other =
      if other = name then some (.made s.registries.length) else s.refOf other := by
  show Option.map RegistryRef.made ((s.names.insert name s.registries.length).get? other) = _
  rw [OrderedMap.get?_insert]
  split <;> rfl

theorem has_make {s : Session} {name : Text} {registry : Registry Tally} {ref : RegistryRef} :
    (s.make name registry).Has ref ↔ s.Has ref ∨ ref = .made s.registries.length := by
  cases ref with
  | standard => simp [Has]
  | made index =>
    show index < (s.registries ++ [registry]).length ↔ index < s.registries.length ∨ _
    rw [List.length_append, List.length_singleton, RegistryRef.made.injEq]
    omega

theorem registry_make {s : Session} {ref : RegistryRef} (h : s.Has ref) (name : Text)
    (registry : Registry Tally) : (s.make name registry).registry ref = s.registry ref := by
  cases ref with
  | standard => rfl
  | made index =>
    show (s.registries ++ [registry]).getD index ∅ = s.registries.getD index ∅
    rw [List.getD_eq_getElem?_getD, List.getElem?_append_left h, ← List.getD_eq_getElem?_getD]

theorem has_update {s : Session} {index : Nat} {registry : Registry Tally} {ref : RegistryRef} :
    (s.update index registry).Has ref ↔ s.Has ref := by
  cases ref with
  | standard => rfl
  | made other =>
    show other < (s.registries.set index registry).length ↔ _
    rw [List.length_set]
    rfl

theorem registry_update_self {s : Session} {index : Nat} (h : s.Has (.made index))
    (registry : Registry Tally) :
    (s.update index registry).registry (.made index) = registry := by
  show (s.registries.set index registry).getD index ∅ = registry
  rw [List.getD_eq_getElem?_getD, List.getElem?_set_self h]
  rfl

theorem registry_update_of_ne {index : Nat} {ref : RegistryRef} (h : ref ≠ .made index)
    (s : Session) (registry : Registry Tally) :
    (s.update index registry).registry ref = s.registry ref := by
  cases ref with
  | standard => rfl
  | made other =>
    have hne : index ≠ other := fun he => h (he ▸ rfl)
    show (s.registries.set index registry).getD other ∅ = s.registries.getD other ∅
    rw [List.getD_eq_getElem?_getD, List.getElem?_set_ne hne, ← List.getD_eq_getElem?_getD]

/-! ### The effect of a step -/

/-- Two sessions have the same registries, names and parsers. -/
structure SameBindings (s t : Session) : Prop where
  registries : t.registries = s.registries
  names : t.names = s.names
  parsers : t.parsers = s.parsers

namespace SameBindings

variable {s t : Session}

theorem refl (s : Session) : SameBindings s s := ⟨rfl, rfl, rfl⟩

theorem refOf (h : SameBindings s t) (name : Text) : t.refOf name = s.refOf name := by
  unfold Session.refOf
  rw [h.names]

theorem has_iff (h : SameBindings s t) {ref : RegistryRef} : t.Has ref ↔ s.Has ref := by
  cases ref with
  | standard => rfl
  | made index =>
    unfold Has
    rw [h.registries]

theorem registry (h : SameBindings s t) (ref : RegistryRef) : t.registry ref = s.registry ref := by
  cases ref with
  | standard => rfl
  | made index =>
    unfold Session.registry
    rw [h.registries]

end SameBindings

def Outcome.Succeeds (o : Outcome) : Prop := ∃ result, o.result = .ok result

/-- What a step does to the registries, the names and the parsers. -/
inductive Effect (s : Session) (step : Step) (o : Outcome) : Prop
  | failed (hfail : ¬ o.Succeeds) (hsame : SameBindings s o.session)
  | nothing (htarget : step.target = .nothing) (hsame : SameBindings s o.session)
  | edit {name : Text} {index : Nat} (htarget : step.target = .edit name) (hok : o.Succeeds)
      (hindex : s.names.get? name = some index)
      (hsame : SameBindings
        (s.update index (step.change s.scripts (s.registry (.made index)))) o.session)
  | registry {name : Text} {registry : Registry Tally} (htarget : step.target = .registry name)
      (hok : o.Succeeds) (hsame : SameBindings (s.make name registry) o.session)
  | parser {name : Text} {registry : Option Text} {ref : RegistryRef}
      (hstep : step = .makeParser name registry) (hok : o.Succeeds)
      (href : s.sourceOf registry = some ref)
      (hsame : SameBindings { s with parsers := s.parsers.insert name ref } o.session)

theorem not_succeeds_fail (s : Session) (e : StepError) : ¬ (s.fail e).Succeeds := by
  rintro ⟨result, hresult⟩
  cases hresult

theorem index_eq_ok_iff {s : Session} {name : Text} {index : Nat} :
    s.index name = .ok index ↔ s.names.get? name = some index := by
  unfold Session.index
  cases s.names.get? name with
  | none => simp
  | some other => simp

theorem sameBindings_of_extraRegistry {s t : Session} {source : ExtraSource}
    {extra : Registry Tally} (h : s.extraRegistry source = .ok (extra, t)) : SameBindings s t := by
  cases source with
  | nothing =>
    cases h
    exact .refl s
  | named name =>
    rw [extraRegistry] at h
    cases hindex : s.index name with
    | error e =>
      rw [hindex] at h
      cases h
    | ok index =>
      rw [hindex] at h
      cases h
      exact .refl s
  | specified specs =>
    cases h
    exact ⟨rfl, rfl, rfl⟩

theorem SameBindings.make {s t : Session} (h : SameBindings s t) (name : Text)
    (registry : Registry Tally) : SameBindings (s.make name registry) (t.make name registry) := by
  constructor
  · show t.registries ++ [registry] = s.registries ++ [registry]
    rw [h.registries]
  · show t.names.insert name t.registries.length = s.names.insert name s.registries.length
    rw [h.names, h.registries]
  · exact h.parsers

theorem sourceOf_eq_some_iff {s : Session} {registry : Option Text} {ref : RegistryRef} :
    s.sourceOf registry = some ref ↔
      (registry.elim (.ok .standard) fun r => (s.index r).map RegistryRef.made) = .ok ref := by
  cases registry with
  | none =>
    show some RegistryRef.standard = some ref ↔ Except.ok RegistryRef.standard = .ok ref
    rw [Option.some.injEq, Except.ok.injEq]
  | some name =>
    show Option.map RegistryRef.made (s.names.get? name) = some ref ↔
      (s.index name).map RegistryRef.made = .ok ref
    unfold Session.index
    cases s.names.get? name with
    | none => simp [Except.map]
    | some index => simp [Except.map]

/-- There is nothing else that a step can do. -/
theorem run_effect (s : Session) (step : Step) : s.Effect step (s.run step) := by
  -- One case per kind of step. Each look-up that can fail is split first: a failed step binds
  -- nothing new.
  cases step with
  | build name echoed dropped defaults extra =>
    cases hextra : s.extraRegistry extra with
    | error e =>
      simp only [run, hextra]
      exact .failed (not_succeeds_fail s e) (.refl s)
    | ok made =>
      simp only [run, hextra]
      exact .registry rfl ⟨_, rfl⟩ ((sameBindings_of_extraRegistry hextra).make name _)
  | set name keyword spec =>
    cases hindex : s.index name with
    | error e =>
      simp only [run, hindex]
      exact .failed (not_succeeds_fail s e) (.refl s)
    | ok index =>
      simp only [run, hindex]
      exact .edit rfl ⟨_, rfl⟩ (index_eq_ok_iff.1 hindex) ⟨rfl, rfl, rfl⟩
  | erase name keyword =>
    cases hindex : s.index name with
    | error e =>
      simp only [run, hindex]
      exact .failed (not_succeeds_fail s e) (.refl s)
    | ok index =>
      simp only [run, hindex]
      split
      · exact .edit rfl ⟨_, rfl⟩ (index_eq_ok_iff.1 hindex) (.refl _)
      · exact .failed (not_succeeds_fail s _) (.refl s)
  | load name path files =>
    cases hload : (HandlersFile.loadRegistry (σ := Tally) files path).value with
    | error e =>
      simp only [run, hload]
      apply Effect.failed _ (.refl s)
      rintro ⟨result, hresult⟩
      cases hresult
    | ok registry =>
      simp only [run, hload]
      exact .registry rfl ⟨_, rfl⟩ (.refl _)
  | setStandard => exact .nothing rfl (.refl s)
  | showStandard => exact .nothing rfl (.refl s)
  | makeParser name registry =>
    cases href : registry.elim (.ok .standard) fun r => (s.index r).map RegistryRef.made with
    | error e =>
      simp only [run, href]
      exact .failed (not_succeeds_fail s e) (.refl s)
    | ok ref =>
      cases husable : checkUsable (s.registry ref) with
      | error e =>
        simp only [run, href, husable]
        exact .failed (not_succeeds_fail s _) (.refl s)
      | ok u =>
        simp only [run, href, husable]
        exact .parser rfl ⟨_, rfl⟩ (sourceOf_eq_some_iff.2 href) (.refl _)
  | parse parser text =>
    cases hparser : s.parserRef parser with
    | error e =>
      simp only [run, hparser]
      exact .nothing rfl (.refl s)
    | ok ref =>
      simp only [run, hparser]
      exact .nothing rfl ⟨rfl, rfl, rfl⟩
  | split parser text =>
    cases hparser : s.parserRef parser with
    | error e =>
      simp only [run, hparser]
      exact .nothing rfl (.refl s)
    | ok ref =>
      simp only [run, hparser]
      exact .nothing rfl (.refl s)
  | expand name text =>
    cases hindex : s.index name with
    | error e =>
      simp only [run, hindex]
      exact .nothing rfl (.refl s)
    | ok index =>
      simp only [run, hindex]
      exact .nothing rfl ⟨rfl, rfl, rfl⟩
  | setQuiet quiet => exact .nothing rfl ⟨rfl, rfl, rfl⟩

/-! ### What every session keeps -/

/-- References lead to registries, and a registry has at most one name. -/
structure WellFormed (s : Session) : Prop where
  named : ∀ {name : Text} {ref : RegistryRef}, s.refOf name = some ref → s.Has ref
  apart : ∀ {m n : Text} {ref : RegistryRef},
    s.refOf m = some ref → s.refOf n = some ref → m = n
  bound : ∀ {parser : Text} {ref : RegistryRef}, s.parsers.get? parser = some ref → s.Has ref

namespace WellFormed

variable {s t : Session}

theorem start (quiet : Bool) : (Session.start quiet).WellFormed := by
  constructor
  · rintro name ref href
    cases href
  · rintro m n ref href
    cases href
  · rintro parser ref href
    cases href

theorem congr (h : s.WellFormed) (hsame : SameBindings s t) : t.WellFormed := by
  constructor
  · intro name ref href
    rw [hsame.refOf] at href
    exact hsame.has_iff.2 (h.named href)
  · intro m n ref hm hn
    rw [hsame.refOf] at hm hn
    exact h.apart hm hn
  · intro parser ref href
    rw [hsame.parsers] at href
    exact hsame.has_iff.2 (h.bound href)

theorem update (h : s.WellFormed) (index : Nat) (registry : Registry Tally) :
    (s.update index registry).WellFormed where
  named href := has_update.2 (h.named href)
  apart hm hn := h.apart hm hn
  bound href := has_update.2 (h.bound href)

/-- The place behind all registries has no name yet. -/
theorem refOf_ne_made (h : s.WellFormed) (name : Text) :
    s.refOf name ≠ some (.made s.registries.length) := by
  intro href
  exact Nat.lt_irrefl s.registries.length (h.named href)

theorem make (h : s.WellFormed) (name : Text) (registry : Registry Tally) :
    (s.make name registry).WellFormed := by
  constructor
  · intro other ref href
    rw [refOf_make] at href
    split at href
    · cases href
      exact has_make.2 (.inr rfl)
    · exact has_make.2 (.inl (h.named href))
  · intro m n ref hm hn
    rw [refOf_make] at hm hn
    -- The new name and an old one are apart, since no old one leads behind all registries.
    split at hm <;> split at hn
    · next hmname hnname => exact hmname.trans hnname.symm
    · cases hm
      exact absurd hn (h.refOf_ne_made n)
    · cases hn
      exact absurd hm (h.refOf_ne_made m)
    · exact h.apart hm hn
  · intro parser ref href
    exact has_make.2 (.inl (h.bound href))

theorem has_of_sourceOf (h : s.WellFormed) {registry : Option Text} {ref : RegistryRef}
    (href : s.sourceOf registry = some ref) : s.Has ref := by
  cases registry with
  | none =>
    cases href
    trivial
  | some name => exact h.named href

theorem bind (h : s.WellFormed) (parser : Text) {ref : RegistryRef} (hhas : s.Has ref) :
    WellFormed { s with parsers := s.parsers.insert parser ref } where
  named := h.named
  apart := h.apart
  bound := by
    intro other otherRef hother
    rw [OrderedMap.get?_insert] at hother
    split at hother
    · cases hother
      exact hhas
    · exact h.bound hother

theorem run (h : s.WellFormed) (step : Step) : (s.run step).session.WellFormed := by
  cases s.run_effect step with
  | failed _ hsame => exact h.congr hsame
  | nothing _ hsame => exact h.congr hsame
  | edit _ _ _ hsame => exact (h.update _ _).congr hsame
  | registry _ _ hsame => exact (h.make _ _).congr hsame
  | parser _ _ href hsame => exact (h.bind _ (h.has_of_sourceOf href)).congr hsame

theorem after (h : s.WellFormed) (steps : List Step) : (s.after steps).WellFormed := by
  induction steps generalizing s with
  | nil => exact h
  | cons step steps ih => exact ih (h.run step)

end WellFormed

/-! ### What one step keeps -/

/-- The step edits under a name of the registry. -/
def Edits (s : Session) (ref : RegistryRef) (step : Step) : Prop :=
  ∃ name, step.target = .edit name ∧ s.refOf name = some ref

/-- The step makes the parser, and it succeeds. -/
def Makes (s : Session) (parser : Text) (step : Step) : Prop :=
  step.target = .parser parser ∧ (s.run step).Succeeds

section Step

variable {s : Session} {step : Step} {ref : RegistryRef}

theorem has_run (h : s.Has ref) (step : Step) : (s.run step).session.Has ref := by
  cases s.run_effect step with
  | failed _ hsame => exact hsame.has_iff.2 h
  | nothing _ hsame => exact hsame.has_iff.2 h
  | edit _ _ _ hsame => exact hsame.has_iff.2 (has_update.2 h)
  | registry _ _ hsame => exact hsame.has_iff.2 (has_make.2 (.inl h))
  | parser _ _ _ hsame => exact hsame.has_iff.2 h

theorem registry_run_of_not_edits (hhas : s.Has ref) (h : ¬ s.Edits ref step) :
    (s.run step).session.registry ref = s.registry ref := by
  cases s.run_effect step with
  | failed _ hsame => exact hsame.registry ref
  | nothing _ hsame => exact hsame.registry ref
  | edit htarget _ hindex hsame =>
    rw [hsame.registry]
    -- The object edited is another one, or the step would edit `ref`.
    apply registry_update_of_ne
    rintro rfl
    exact h ⟨_, htarget, refOf_eq_some_iff.2 ⟨_, hindex, rfl⟩⟩
  | registry _ _ hsame =>
    rw [hsame.registry]
    exact registry_make hhas _ _
  | parser _ _ _ hsame => exact hsame.registry ref

theorem registry_run_of_edit (hs : s.WellFormed) {name : Text}
    (htarget : step.target = .edit name) (href : s.refOf name = some ref)
    (hok : (s.run step).Succeeds) :
    (s.run step).session.registry ref = step.change s.scripts (s.registry ref) := by
  obtain ⟨index, hindex, rfl⟩ := refOf_eq_some_iff.1 href
  -- The other effects say another target, or that the step failed.
  cases s.run_effect step with
  | failed hfail _ => exact absurd hok hfail
  | nothing hother _ => cases htarget.symm.trans hother
  | edit hedit _ hplace hsame =>
    cases htarget.symm.trans hedit
    cases hindex.symm.trans hplace
    rw [hsame.registry]
    exact registry_update_self (hs.named href) _
  | registry hother _ _ => cases htarget.symm.trans hother
  | parser hstep _ _ _ =>
    subst hstep
    cases htarget

theorem sameBindings_of_nothing (htarget : step.target = .nothing) :
    SameBindings s (s.run step).session := by
  cases s.run_effect step with
  | failed _ hsame => exact hsame
  | nothing _ hsame => exact hsame
  | edit hother _ _ _ => cases htarget.symm.trans hother
  | registry hother _ _ => cases htarget.symm.trans hother
  | parser hstep _ _ _ =>
    subst hstep
    cases htarget

theorem sameBindings_of_fails (hfail : ¬ (s.run step).Succeeds) :
    SameBindings s (s.run step).session := by
  cases s.run_effect step with
  | failed _ hsame => exact hsame
  | nothing _ hsame => exact hsame
  | edit _ hok _ _ => exact absurd hok hfail
  | registry _ hok _ => exact absurd hok hfail
  | parser _ hok _ _ => exact absurd hok hfail

theorem refOf_run_of_ne {name : Text} (h : step.target ≠ .registry name) :
    (s.run step).session.refOf name = s.refOf name := by
  cases s.run_effect step with
  | failed _ hsame => exact hsame.refOf name
  | nothing _ hsame => exact hsame.refOf name
  | edit _ _ _ hsame => exact hsame.refOf name
  | registry htarget _ hsame =>
    rw [hsame.refOf, refOf_make, if_neg]
    rintro rfl
    exact h htarget
  | parser _ _ _ hsame => exact hsame.refOf name

/-- A new registry stands where none stood before. -/
theorem refOf_run_of_registry {name : Text} (htarget : step.target = .registry name)
    (hok : (s.run step).Succeeds) :
    (s.run step).session.refOf name = some (.made s.registries.length) := by
  cases s.run_effect step with
  | failed hfail _ => exact absurd hok hfail
  | nothing hother _ => cases htarget.symm.trans hother
  | edit hother _ _ _ => cases htarget.symm.trans hother
  | registry hregistry _ hsame =>
    cases htarget.symm.trans hregistry
    rw [hsame.refOf, refOf_make, if_pos rfl]
  | parser hstep _ _ _ =>
    subst hstep
    cases htarget

theorem parsers_run_of_not_makes {parser : Text} (h : ¬ s.Makes parser step) :
    (s.run step).session.parsers.get? parser = s.parsers.get? parser := by
  cases s.run_effect step with
  | failed _ hsame => rw [hsame.parsers]
  | nothing _ hsame => rw [hsame.parsers]
  | edit _ _ _ hsame => rw [hsame.parsers]; rfl
  | registry _ _ hsame => rw [hsame.parsers]; rfl
  | parser hstep hok _ hsame =>
    subst hstep
    rw [hsame.parsers, OrderedMap.get?_insert, if_neg]
    rintro rfl
    exact h ⟨rfl, hok⟩

/-- A parser is made for the registry that the name stands for now. -/
theorem parsers_run_of_makeParser {parser : Text} {registry : Option Text}
    (hok : (s.run (.makeParser parser registry)).Succeeds) :
    (s.run (.makeParser parser registry)).session.parsers.get? parser =
      s.sourceOf registry := by
  cases s.run_effect (.makeParser parser registry) with
  | failed hfail _ => exact absurd hok hfail
  | nothing hother _ => cases hother
  | edit hother _ _ _ => cases hother
  | registry hother _ _ => cases hother
  | parser hstep _ href hsame =>
    cases hstep
    rw [hsame.parsers, OrderedMap.get?_insert, if_pos rfl, href]

end Step

/-! ### What steps keep, one after the other -/

theorem registry_after_of_not_edited {s : Session} {ref : RegistryRef} (hhas : s.Has ref)
    {steps : List Step} (h : s.Along (fun t step => ¬ t.Edits ref step) steps) :
    (s.after steps).registry ref = s.registry ref := by
  induction steps generalizing s with
  | nil => rfl
  | cons step steps ih =>
    obtain ⟨hstep, hsteps⟩ := h
    rw [after_cons, ih (has_run hhas step) hsteps, registry_run_of_not_edits hhas hstep]

theorem parsers_after_of_not_made {s : Session} {parser : Text} {steps : List Step}
    (h : s.Along (fun t step => ¬ t.Makes parser step) steps) :
    (s.after steps).parsers.get? parser = s.parsers.get? parser := by
  induction steps generalizing s with
  | nil => rfl
  | cons step steps ih =>
    obtain ⟨hstep, hsteps⟩ := h
    rw [after_cons, ih hsteps, parsers_run_of_not_makes hstep]

/-! ### Parsers and names answer alike -/

def parserAnswer : Except Failure Text → Except StepError StepResult
  | .ok expanded => .ok (.parsed (.expanded expanded))
  | .error (.malformed e) => .ok (.parsed (.refused e.message))
  | .error (.inert label) => .error (.failed (.inert label))

def nameAnswer : Except Failure Text → Except StepError StepResult
  | .ok expanded => .ok (.text expanded)
  | .error failure => .error (.failed failure)

/-- The parser expands with the registry of the reference, as a name of that registry does. -/
structure Serves (s : Session) (ref : RegistryRef) (parser : Text) : Prop where
  bound : s.parsers.get? parser = some ref
  has : s.Has ref
  parse : ∀ text : Text,
    (s.run (.parse parser text)).result =
        parserAnswer (EscapeClause.expand (s.registry ref) text s.tally).result ∧
      (s.run (.parse parser text)).session =
        { s with tally := (EscapeClause.expand (s.registry ref) text s.tally).state }
  expand : ∀ name text : Text, s.refOf name = some ref →
    (s.run (.expand name text)).result =
        nameAnswer (EscapeClause.expand (s.registry ref) text s.tally).result ∧
      (s.run (.expand name text)).session =
        { s with tally := (EscapeClause.expand (s.registry ref) text s.tally).state }

theorem WellFormed.serves {s : Session} (h : s.WellFormed) {parser : Text} {ref : RegistryRef}
    (hparser : s.parsers.get? parser = some ref) : s.Serves ref parser where
  bound := hparser
  has := h.bound hparser
  parse := by
    intro text
    have hrun : s.run (.parse parser text) = s.parseWith ref text := by
      simp only [Session.run, parserRef, hparser]
    rw [hrun, parseWith, EscapeClause.parse]
    -- A parser reads its registry object and changes the tally only, whatever the result.
    rcases (EscapeClause.expand (s.registry ref) text s.tally).result with (e | label) | expanded
    · exact ⟨rfl, rfl⟩
    · exact ⟨rfl, rfl⟩
    · exact ⟨rfl, rfl⟩
  expand := by
    intro name text href
    obtain ⟨index, hindex, rfl⟩ := refOf_eq_some_iff.1 href
    have hrun : s.run (.expand name text) = s.expandWith (.made index) text := by
      simp only [Session.run, Session.index, hindex]
    rw [hrun, expandWith]
    rcases (EscapeClause.expand (s.registry (.made index)) text s.tally).result with
      failure | expanded
    · exact ⟨rfl, rfl⟩
    · exact ⟨rfl, rfl⟩

/-! ### Isolation -/

/-- Nothing that is done to one registry is seen in another one, at this session and at any
session after it. -/
structure Isolated (s : Session) : Prop where
  /-- The standard registry stays what it is, and whoever looks at it or assigns to it finds so. -/
  standard : ∀ steps : List Step,
    (s.after steps).registry .standard = Registry.standard ∧
      ((s.after steps).run .showStandard).result =
        .ok (.shown (Registry.standard : Registry Tally).shown) ∧
      ((s.after steps).run .setStandard).result = .error .readOnly
  /-- A registry is changed only by an edit under a name of it. -/
  changed : ∀ {step : Step} {ref : RegistryRef}, s.Has ref →
    (s.run step).session.registry ref ≠ s.registry ref → s.Edits ref step
  /-- An edit does what it says. -/
  edited : ∀ {step : Step} {name : Text} {ref : RegistryRef}, step.target = .edit name →
    s.refOf name = some ref → (s.run step).Succeeds →
    (s.run step).session.registry ref = step.change s.scripts (s.registry ref)
  /-- Two names stand for two registries, none of them the standard one. -/
  apart : ∀ {m n : Text} {ref : RegistryRef}, s.refOf m = some ref → ref ≠ .standard ∧ s.Has ref ∧
    (s.refOf n = some ref → n = m)
  /-- A name is given a registry that did not exist before, and the other names stay. -/
  made : ∀ {step : Step} {name : Text}, step.target = .registry name → (s.run step).Succeeds →
    (∃ ref, ¬ s.Has ref ∧ (s.run step).session.Has ref ∧
      (s.run step).session.refOf name = some ref) ∧
    ∀ other, other ≠ name → (s.run step).session.refOf other = s.refOf other
  /-- Parsing, splitting, expanding and what concerns the standard registry or the log change no
  registry, no name and no parser. -/
  reading : ∀ {step : Step}, step.target = .nothing → SameBindings s (s.run step).session
  /-- Neither does a step that fails. -/
  failed : ∀ {step : Step}, ¬ (s.run step).Succeeds → SameBindings s (s.run step).session
  /-- As long as a registry is not edited under a name of it, it stays as it is. -/
  kept : ∀ {steps : List Step} {ref : RegistryRef}, s.Has ref →
    s.Along (fun t step => ¬ t.Edits ref step) steps →
    (s.after steps).registry ref = s.registry ref
  /-- A parser is made for the registry that the name stands for now. -/
  parser : ∀ {parser : Text} {registry : Option Text},
    (s.run (.makeParser parser registry)).Succeeds →
    (s.run (.makeParser parser registry)).session.parsers.get? parser = s.sourceOf registry
  /-- As long as a parser is not made again, it has its registry, whatever the names stand for by
  then, and answers as that registry expands now. -/
  served : ∀ {steps : List Step} {parser : Text} {ref : RegistryRef},
    s.parsers.get? parser = some ref → s.Along (fun t step => ¬ t.Makes parser step) steps →
    (s.after steps).Serves ref parser

/-- At every time of every session, registries do not interfere. -/
theorem isolated_after_start (quiet : Bool) (past : List Step) :
    ((start quiet).after past).Isolated := by
  have hs : ((start quiet).after past).WellFormed := (WellFormed.start quiet).after past
  -- One field of `Isolated` each, from what one step does or from its induction over the steps.
  constructor
  case standard =>
    intro steps
    exact ⟨rfl, rfl, rfl⟩
  case changed =>
    intro step ref hhas hne
    apply Classical.byContradiction
    intro hedits
    exact hne (registry_run_of_not_edits hhas hedits)
  case edited =>
    intro step name ref htarget href hok
    exact registry_run_of_edit hs htarget href hok
  case apart =>
    intro m n ref hm
    refine ⟨?_, hs.named hm, fun hn => hs.apart hn hm⟩
    rintro rfl
    obtain ⟨index, -, hindex⟩ := refOf_eq_some_iff.1 hm
    cases hindex
  case made =>
    intro step name htarget hok
    have href := refOf_run_of_registry htarget hok
    refine ⟨⟨_, Nat.lt_irrefl _, (hs.run step).named href, href⟩, ?_⟩
    intro other hother
    apply refOf_run_of_ne
    rw [htarget]
    rintro ⟨⟩
    exact hother rfl
  case reading =>
    intro step htarget
    exact sameBindings_of_nothing htarget
  case failed =>
    intro step hfail
    exact sameBindings_of_fails hfail
  case kept =>
    intro steps ref hhas hsteps
    exact registry_after_of_not_edited hhas hsteps
  case parser =>
    intro parser registry hok
    exact parsers_run_of_makeParser hok
  case served =>
    intro steps parser ref hparser hsteps
    apply (hs.after steps).serves
    rw [parsers_after_of_not_made hsteps, hparser]

/-- The name is built again from its old registry and edited; the parser keeps the old one. -/
theorem isolated_after_start_rebuilt :
    let past : List Step :=
      [.build ['m'] [['x']] [] false .nothing, .makeParser ['p'] (some ['m'])]
    let later : List Step :=
      [.build ['m'] [] [] false (.named ['m']), .set ['m'] ['x'] (.constant ['0']), .setStandard,
        .makeParser ['p'] (some ['n'])]
    let t := ((start false).after past).after later
    (t.run (.parse ['p'] ['\x7b', 'x', ' ', '1', '\x7d'])).result =
        .ok (.parsed (.expanded ['x', ' ', '1'])) ∧
      (t.run (.expand ['m'] ['\x7b', 'x', ' ', '1', '\x7d'])).result = .ok (.text ['0']) := by
  intro past later t
  have hlater : ((start false).after past).Along (fun t step => ¬ t.Makes ['p'] step) later := by
    refine ⟨?_, ?_, ?_, ?_, trivial⟩
    · rintro ⟨htarget, -⟩
      cases htarget
    · rintro ⟨htarget, -⟩
      cases htarget
    · rintro ⟨htarget, -⟩
      cases htarget
    · rintro ⟨-, result, hresult⟩
      cases hresult
  -- No later step makes `p` again, so it serves the object it was made with.
  have hserves : t.Serves (.made 0) ['p'] :=
    (isolated_after_start false past).served rfl hlater
  have hparse := (hserves.parse ['\x7b', 'x', ' ', '1', '\x7d']).1
  refine ⟨hparse.trans ?_, ?_⟩
  · rfl
  · rfl

end Session

end EscapeClause
