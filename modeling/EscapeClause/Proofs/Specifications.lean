import EscapeClause.Proofs.HandlersDocument
import EscapeClause.Proofs.TruthValues

/-!
# Handlers files whose names repeat

Of the members of an object those count that `Json.IsEffective` describes: every name in the place
where it comes first, with its last value. What a handlers file loads to is decided by them alone,
and by the effective fields of each specification: `Specifies` tells the flag of a specification
and `IsReport` its problems, and `Outcome` tells from these what is loaded or which keyword refuses
the file (`load_object`).
-/

namespace EscapeClause

namespace Json

/-- The members of an object that count. -/
structure IsEffective (members fields : List (Decoded × Json)) : Prop where
  /-- The names are those of the members, each in the place where it comes first. -/
  names : fields.map Prod.fst = (members.map Prod.fst).eraseDups
  /-- No member after it has the name. -/
  last : ∀ e ∈ fields, ∃ before after, members = before ++ e :: after ∧ e.1 ∉ after.map Prod.fst

theorem isEffective_iff {members fields : List (Decoded × Json)} :
    IsEffective members fields ↔ fields = (effective members).entries := by
  constructor
  · intro h
    refine OrderedMap.eq_entries (h.names.trans (OrderedMap.keys_ofList members).symm) ?_
    intro e he
    exact OrderedMap.get?_ofList_eq_some_iff.2 (h.last e he)
  · rintro rfl
    refine ⟨OrderedMap.keys_ofList members, fun e he => ?_⟩
    exact OrderedMap.get?_ofList_eq_some_iff.1 (OrderedMap.get?_of_mem_entries he)

theorem isEffective_entries (members : List (Decoded × Json)) :
    IsEffective members (effective members).entries :=
  isEffective_iff.2 rfl

end Json

namespace HandlersFile

/-! ### Reports -/

namespace Problem

theorem le_total (p q : Problem) : p.le q || q.le p := by
  rw [le, le]
  by_cases h : p.field = q.field
  · rw [if_pos h, if_pos h.symm]
    exact Text.le_total _ _
  · rw [if_neg h, if_neg (Ne.symm h)]
    exact Text.le_total _ _

theorem le_trans (p q r : Problem) (hpq : p.le q) (hqr : q.le r) : p.le r := by
  rw [le] at hpq hqr ⊢
  -- Problems are ordered by field, then by name; equal fields on both sides compare the names.
  by_cases hp : p.field = q.field
  · rw [if_pos hp] at hpq
    by_cases hq : q.field = r.field
    · rw [if_pos hq] at hqr
      rw [if_pos (hp.trans hq)]
      exact Text.le_trans hpq hqr
    · rw [if_neg hq] at hqr
      rwa [if_neg fun h => hq (hp.symm.trans h), hp]
  · rw [if_neg hp] at hpq
    by_cases hq : q.field = r.field
    · rwa [if_neg fun h => hp (h.trans hq.symm), ← hq]
    · rw [if_neg hq] at hqr
      have hr : p.field ≠ r.field := fun h => hp (Text.le_antisymm hpq (h ▸ hqr))
      rw [if_neg hr]
      exact Text.le_trans hpq hqr

theorem le_antisymm {p q : Problem} (hpq : p.le q) (hqp : q.le p) : p = q := by
  obtain ⟨field, kind⟩ := p
  obtain ⟨field', kind'⟩ := q
  rw [le] at hpq hqp
  by_cases h : field = field'
  · rw [if_pos h] at hpq
    rw [if_pos h.symm] at hqp
    have hname : kind.name = kind'.name := Text.le_antisymm hpq hqp
    have hkind : kind = kind' := by
      revert hname
      -- No two kinds have one name.
      cases kind <;> cases kind' <;> decide
    rw [h, hkind]
  · rw [if_neg h] at hpq
    rw [if_neg (Ne.symm h)] at hqp
    exact absurd (Text.le_antisymm hpq hqp) h

end Problem

def flagName : Decoded := Decoded.ofText "include_keyword".toList

/-- A value that specifies a flag: an object without any field, which keeps the keyword, or with
the field of the flag alone. -/
inductive Specifies : Json → Bool → Prop
  | absent {members : List (Decoded × Json)} (h : Json.IsEffective members []) :
      Specifies (.object members) true
  | given {members : List (Decoded × Json)} {value : Json} {flag : Bool}
      (h : Json.IsEffective members [(flagName, value)]) (hflag : IsFlag value flag) :
      Specifies (.object members) flag

def AreNamed (fields : List (Decoded × Json)) : Prop :=
  ∀ e ∈ fields, ∃ name, e.1 = Decoded.ofText name

/-- What there is to complain about in a value. The names of fields come first: if one of them is
no text, then that is all. -/
inductive HasProblem : Json → Problem → Prop
  | notAnObject {value : Json} (h : ∀ members, value ≠ .object members) :
      HasProblem value ⟨[], .notAnObject⟩
  | notNamed {members fields : List (Decoded × Json)} (h : Json.IsEffective members fields)
      (hnames : ¬ AreNamed fields) : HasProblem (.object members) ⟨[], .notText⟩
  | unknownField {members fields : List (Decoded × Json)} {name : Text} {value : Json}
      (h : Json.IsEffective members fields) (hnames : AreNamed fields)
      (hmem : (Decoded.ofText name, value) ∈ fields) (hname : Decoded.ofText name ≠ flagName) :
      HasProblem (.object members) ⟨name, .unknownField⟩
  | flag {members fields : List (Decoded × Json)} {value : Json} {e : FlagError}
      (h : Json.IsEffective members fields) (hnames : AreNamed fields)
      (hmem : (flagName, value) ∈ fields) (hflag : IsNoFlag value e) :
      HasProblem (.object members) ⟨"include_keyword".toList, .ofFlagError e⟩

/-- All the problems of a value, in order. -/
structure IsReport (value : Json) (problems : List Problem) : Prop where
  sorted : problems.Pairwise fun p q => p.le q
  nodup : problems.Nodup
  mem_iff : ∀ p, p ∈ problems ↔ HasProblem value p

theorem IsReport.eq {value : Json} {ps qs : List Problem} (hps : IsReport value ps)
    (hqs : IsReport value qs) : ps = qs := by
  have hperm : ps.Perm qs := (List.perm_ext_iff_of_nodup hps.nodup hqs.nodup).2 fun p =>
    (hps.mem_iff p).trans (hqs.mem_iff p).symm
  exact hperm.eq_of_pairwise (fun _ _ _ _ => Problem.le_antisymm) hps.sorted hqs.sorted

/-! ### Fields with names -/

theorem nameFields?_eq_some_iff {fields : List (Decoded × Json)} {named : List (Text × Json)} :
    nameFields? fields = some named ↔
      fields = named.map fun e => (Decoded.ofText e.1, e.2) := by
  induction fields generalizing named with
  | nil => cases named <;> simp [nameFields?]
  | cons e fields ih =>
    obtain ⟨name, value⟩ := e
    rw [nameFields?]
    constructor
    · intro h
      split at h
      · next n rest hname hrest =>
        cases h
        rw [Decoded.text?_eq_some_iff.1 hname, ih.1 hrest]
        rfl
      · cases h
    · intro h
      cases named with
      | nil => cases h
      | cons m named =>
        obtain ⟨h, rfl⟩ := List.cons.inj h
        cases h
        rw [Decoded.text?_ofText, ih.2 rfl]

theorem areNamed_iff {fields : List (Decoded × Json)} :
    AreNamed fields ↔ ∃ named, nameFields? fields = some named := by
  induction fields with
  | nil => exact iff_of_true (List.forall_mem_nil _) ⟨[], rfl⟩
  | cons e fields ih =>
    rw [AreNamed, List.forall_mem_cons, ← AreNamed, ih]
    constructor
    · rintro ⟨⟨name, hname⟩, named, hnamed⟩
      refine ⟨(name, e.2) :: named, nameFields?_eq_some_iff.2 ?_⟩
      rw [List.map_cons, ← nameFields?_eq_some_iff.1 hnamed, ← hname]
    · rintro ⟨named, hnamed⟩
      cases named with
      | nil => cases nameFields?_eq_some_iff.1 hnamed
      | cons m named =>
        obtain ⟨rfl, hrest⟩ := List.cons.inj (nameFields?_eq_some_iff.1 hnamed)
        exact ⟨⟨m.1, rfl⟩, named, nameFields?_eq_some_iff.2 hrest⟩

theorem nameFields?_eq_none_iff {fields : List (Decoded × Json)} :
    nameFields? fields = none ↔ ¬ AreNamed fields := by
  rw [areNamed_iff, not_exists, Option.eq_none_iff_forall_ne_some]

/-- A binding of a field by its name is a field. -/
theorem mem_of_nameFields? {fields : List (Decoded × Json)} {named : List (Text × Json)}
    (h : nameFields? fields = some named) {name : Text} {value : Json} :
    (Decoded.ofText name, value) ∈ fields ↔ (name, value) ∈ named := by
  rw [nameFields?_eq_some_iff.1 h, List.mem_map]
  constructor
  · rintro ⟨e, he, heq⟩
    obtain ⟨hname, rfl⟩ := Prod.mk.inj heq
    rwa [← Decoded.ofText_inj.1 hname]
  · intro hmem
    exact ⟨_, hmem, rfl⟩

/-! ### Problems of fields -/

theorem memberProblem?_eq_none_iff {name : Text} {value : Json} :
    memberProblem? name value = none ↔ name = flagField ∧ ∃ flag, IsFlag value flag := by
  rw [memberProblem?]
  by_cases h : name = flagField
  · rw [if_pos h]
    simp only [← flagOfJson_eq_ok_iff]
    cases hflag : flagOfJson value with
    | ok flag => exact ⟨fun _ => ⟨h, flag, rfl⟩, fun _ => rfl⟩
    | error e => exact ⟨fun h => (nomatch h), fun ⟨_, _, h⟩ => (nomatch h)⟩
  · rw [if_neg h]
    exact ⟨fun h => (nomatch h), fun h' => absurd h'.1 h⟩

theorem field_eq_of_memberProblem? {name : Text} {value : Json} {p : Problem}
    (h : memberProblem? name value = some p) : p.field = name := by
  rw [memberProblem?] at h
  split at h
  · split at h
    · cases h
    · cases h; rfl
  · cases h; rfl

section Object

variable {members : List (Decoded × Json)} {named : List (Text × Json)}
  (hnamed : nameFields? (Json.effective members).entries = some named)

include hnamed

theorem hasProblem_object_iff {p : Problem} :
    HasProblem (.object members) p ↔ ∃ e ∈ named, memberProblem? e.1 e.2 = some p := by
  -- All the names are texts, so only a field can be at fault.
  have hnames := areNamed_iff.2 ⟨named, hnamed⟩
  constructor
  · intro h
    cases h with
    | notAnObject h => exact absurd rfl (h members)
    | notNamed h hnot =>
      rw [Json.isEffective_iff.1 h] at hnot
      exact absurd hnames hnot
    | unknownField h _ hmem hname =>
      rw [Json.isEffective_iff.1 h, mem_of_nameFields? hnamed] at hmem
      exact ⟨_, hmem, if_neg fun heq => hname (congrArg Decoded.ofText heq)⟩
    | flag h _ hmem hflag =>
      rw [Json.isEffective_iff.1 h, flagName, mem_of_nameFields? hnamed] at hmem
      refine ⟨_, hmem, ?_⟩
      show memberProblem? flagField _ = _
      rw [memberProblem?, if_pos rfl, hflag.flagOfJson_eq]
      rfl
  · rintro ⟨⟨name, value⟩, hmem, hp⟩
    have heffective := Json.isEffective_entries members
    rw [← mem_of_nameFields? hnamed] at hmem
    rw [memberProblem?] at hp
    by_cases hname : name = flagField
    · rw [if_pos hname] at hp
      cases hflag : flagOfJson value with
      | ok flag =>
        rw [hflag] at hp
        cases hp
      | error e =>
        rw [hflag] at hp
        cases hp
        subst hname
        exact .flag heffective hnames hmem (flagOfJson_eq_error_iff.1 hflag)
    · rw [if_neg hname] at hp
      cases hp
      exact .unknownField heffective hnames hmem fun heq => hname (Decoded.ofText_inj.1 heq)

theorem nodup_named : (named.map Prod.fst).Nodup := by
  have hnodup := (Json.effective members).nodup
  rw [nameFields?_eq_some_iff.1 hnamed, List.map_map] at hnodup
  refine List.Nodup.of_map Decoded.ofText ?_
  rwa [List.map_map]

/-- The problems of the fields of a specification, in the order of the fields. -/
def fieldProblems (named : List (Text × Json)) : List Problem :=
  named.filterMap fun e => memberProblem? e.1 e.2

theorem nodup_fieldProblems : (fieldProblems named).Nodup := by
  have hnames : named.Pairwise fun e e' => e.1 ≠ e'.1 :=
    List.pairwise_map.1 (nodup_named hnamed)
  refine hnames.filterMap _ fun e e' hne p hp p' hp' heq => hne ?_
  rw [← field_eq_of_memberProblem? hp, ← field_eq_of_memberProblem? hp', heq]

theorem isReport_object :
    IsReport (.object members) ((fieldProblems named).mergeSort Problem.le) where
  sorted := List.pairwise_mergeSort Problem.le_trans Problem.le_total _
  nodup := (List.mergeSort_perm _ _).nodup_iff.2 (nodup_fieldProblems hnamed)
  mem_iff p := by
    rw [(List.mergeSort_perm _ _).mem_iff, fieldProblems, List.mem_filterMap,
      hasProblem_object_iff hnamed]

/-- Fields without a problem are the field of the flag, or none. -/
theorem named_of_fieldProblems_eq_nil (h : fieldProblems named = []) :
    named = [] ∨ ∃ value flag, named = [(flagField, value)] ∧ IsFlag value flag := by
  have hnone : ∀ e ∈ named, e.1 = flagField ∧ ∃ flag, IsFlag e.2 flag := fun e he =>
    memberProblem?_eq_none_iff.1 (List.filterMap_eq_nil_iff.1 h e he)
  have hnodup := nodup_named hnamed
  cases named with
  | nil => exact .inl rfl
  | cons e es =>
    obtain ⟨he, flag, hflag⟩ := hnone e List.mem_cons_self
    -- A second field would have the name of the first, and the names are distinct.
    have hes : es = [] := by
      refine List.eq_nil_iff_forall_not_mem.2 fun e' he' => ?_
      have hsame : e'.1 = e.1 := (hnone e' (List.mem_cons_of_mem e he')).1.trans he.symm
      exact (List.nodup_cons.1 hnodup).1 (hsame ▸ List.mem_map_of_mem he')
    exact .inr ⟨e.2, flag, by rw [hes, ← he], hflag⟩

theorem readSpec_of_fieldProblems (h : fieldProblems named ≠ []) :
    readSpec (.object members) = .error ((fieldProblems named).mergeSort Problem.le) := by
  rw [readSpec, hnamed]
  simp only
  split
  · next hnil => exact absurd hnil h
  · rfl

end Object

theorem isReport_notAnObject {value : Json} (h : ∀ members, value ≠ .object members) :
    IsReport value [⟨[], .notAnObject⟩] where
  sorted := List.pairwise_singleton _ _
  nodup := List.pairwise_singleton _ _
  mem_iff p := by
    rw [List.mem_singleton]
    constructor
    · rintro rfl
      exact .notAnObject h
    · intro hp
      cases hp with
      | notAnObject _ => rfl
      | notNamed | unknownField | flag => exact absurd rfl (h _)

theorem isReport_notNamed {members : List (Decoded × Json)}
    (h : ¬ AreNamed (Json.effective members).entries) :
    IsReport (.object members) [⟨[], .notText⟩] where
  sorted := List.pairwise_singleton _ _
  nodup := List.pairwise_singleton _ _
  mem_iff p := by
    rw [List.mem_singleton]
    constructor
    · rintro rfl
      exact .notNamed (Json.isEffective_entries members) h
    · intro hp
      cases hp with
      | notAnObject hp => exact absurd rfl (hp members)
      | notNamed => rfl
      | unknownField hfields hnames | flag hfields hnames =>
        rw [Json.isEffective_iff.1 hfields] at hnames
        exact absurd hnames h

/-! ### Reading a specification -/

theorem readSpec_of_specifies {value : Json} {flag : Bool} (h : Specifies value flag) :
    readSpec value = .ok flag := by
  cases h with
  | absent h =>
    rw [readSpec, ← Json.isEffective_iff.1 h]
    rfl
  | @given members value _ h hflag =>
    have hnone : memberProblem? flagField value = none :=
      memberProblem?_eq_none_iff.2 ⟨rfl, flag, hflag⟩
    have hnamed : nameFields? [(flagName, value)] = some [(flagField, value)] :=
      nameFields?_eq_some_iff.2 rfl
    rw [readSpec, ← Json.isEffective_iff.1 h, hnamed]
    simp only [List.filterMap_cons, hnone, List.filterMap_nil, OrderedMap.lookupEntries,
      if_pos, hflag.flagOfJson_eq]

/-- A value specifies a flag, or there is something to report. -/
theorem specifies_or_isReport (value : Json) :
    (∃ flag, Specifies value flag) ∨
      ∃ problems, problems ≠ [] ∧ IsReport value problems ∧ readSpec value = .error problems := by
  cases value with
  | object members =>
    have heffective := Json.isEffective_entries members
    cases hnamed : nameFields? (Json.effective members).entries with
    | none =>
      right
      have hnames := nameFields?_eq_none_iff.1 hnamed
      exact ⟨_, List.cons_ne_nil _ _, isReport_notNamed hnames, by rw [readSpec, hnamed]⟩
    | some named =>
      -- With named fields the value specifies a flag or some field is at fault.
      by_cases h : fieldProblems named = []
      · left
        rw [nameFields?_eq_some_iff.1 hnamed] at heffective
        rcases named_of_fieldProblems_eq_nil hnamed h with rfl | ⟨value, flag, rfl, hflag⟩
        · exact ⟨true, .absent heffective⟩
        · exact ⟨flag, .given heffective hflag⟩
      · right
        refine ⟨_, fun hnil => h ?_, isReport_object hnamed, readSpec_of_fieldProblems hnamed h⟩
        rw [← List.nil_perm, ← hnil]
        exact List.mergeSort_perm _ _
  | _ =>
    right
    exact ⟨_, List.cons_ne_nil _ _, isReport_notAnObject (fun _ h => nomatch h), rfl⟩

theorem readSpec_eq_ok_iff {value : Json} {flag : Bool} :
    readSpec value = .ok flag ↔ Specifies value flag := by
  refine ⟨fun h => ?_, readSpec_of_specifies⟩
  rcases specifies_or_isReport value with ⟨flag', hflag'⟩ | ⟨problems, -, -, hproblems⟩
  · rw [readSpec_of_specifies hflag', Except.ok.injEq] at h
    exact h ▸ hflag'
  · cases hproblems.symm.trans h

theorem not_specifies_iff {value : Json} {problems : List Problem} :
    (¬ ∃ flag, Specifies value flag) ∧ IsReport value problems ↔
      readSpec value = .error problems := by
  -- Both sides are decided by which of the two `readSpec` found.
  rcases specifies_or_isReport value with ⟨flag, hflag⟩ | ⟨problems', -, hreport, hread⟩
  · have hread := readSpec_of_specifies hflag
    exact ⟨fun h => absurd ⟨flag, hflag⟩ h.1, fun h => nomatch hread.symm.trans h⟩
  · constructor
    · rintro ⟨-, h⟩
      rw [hread, h.eq hreport]
    · intro h
      cases hread.symm.trans h
      refine ⟨?_, hreport⟩
      rintro ⟨flag, hflag⟩
      cases hread.symm.trans (readSpec_of_specifies hflag)

/-! ### Loading -/

variable {σ : Type}

/-- A member binds its keyword to the handler that its specification describes. -/
def Binds (member : Decoded × Json) (binding : Decoded × Handler σ) : Prop :=
  binding.1 = member.1 ∧ ∃ flag, Specifies member.2 flag ∧ binding.2 = .echo flag

theorem readSpecs_of_ok {path : Text} {keyword : Decoded} {value : Json} {flag : Bool}
    (h : readSpec value = .ok flag) (es : List (Decoded × Json)) :
    readSpecs (σ := σ) path ((keyword, value) :: es) =
      (readSpecs path es).map ((keyword, .echo flag) :: ·) := by
  rw [readSpecs, h]

theorem readSpecs_of_error {path : Text} {keyword : Decoded} {value : Json} {problems : List Problem}
    (h : readSpec value = .error problems) (es : List (Decoded × Json)) :
    readSpecs (σ := σ) path ((keyword, value) :: es) =
      .error (.invalidSpec keyword path problems) := by
  rw [readSpecs, h]

theorem readSpecs_eq_ok_iff {path : Text} {es : List (Decoded × Json)}
    {bindings : List (Decoded × Handler σ)} :
    readSpecs path es = .ok bindings ↔ List.Forall₂ Binds es bindings := by
  induction es generalizing bindings with
  | nil => rw [readSpecs, Except.ok.injEq, List.forall₂_nil_left_iff, eq_comm]
  | cons e es ih =>
    obtain ⟨keyword, value⟩ := e
    rw [List.forall₂_cons_left_iff]
    cases hread : readSpec value with
    | error problems =>
      rw [readSpecs_of_error hread]
      constructor
      · intro h
        cases h
      · rintro ⟨_, _, ⟨-, flag, hflag, -⟩, -, -⟩
        cases hread.symm.trans (readSpec_of_specifies hflag)
    | ok flag =>
      rw [readSpecs_of_ok hread]
      constructor
      · intro h
        cases hrest : readSpecs (σ := σ) path es with
        | error e =>
          rw [hrest] at h
          cases h
        | ok bindings' =>
          rw [hrest] at h
          cases h
          exact ⟨_, _, ⟨rfl, flag, readSpec_eq_ok_iff.1 hread, rfl⟩, ih.1 hrest, rfl⟩
      · rintro ⟨⟨_, _⟩, bindings', ⟨rfl, flag', hflag', rfl⟩, hbindings', rfl⟩
        cases hread.symm.trans (readSpec_of_specifies hflag')
        rw [ih.2 hbindings']
        rfl

/-- The keyword and the report of the first member that specifies no flag. -/
def FirstRefused (es : List (Decoded × Json)) (keyword : Decoded) (problems : List Problem) : Prop :=
  ∃ before value after, es = before ++ (keyword, value) :: after ∧
    (∀ e ∈ before, ∃ flag, Specifies e.2 flag) ∧
    (¬ ∃ flag, Specifies value flag) ∧ IsReport value problems

theorem firstRefused_cons_of_error {keyword keyword' : Decoded} {value : Json}
    {problems problems' : List Problem} (h : readSpec value = .error problems)
    (es : List (Decoded × Json)) :
    FirstRefused ((keyword, value) :: es) keyword' problems' ↔
      keyword' = keyword ∧ problems' = problems := by
  constructor
  · rintro ⟨before, value', after, hes, hbefore, hvalue⟩
    -- The first member is refused already, so no member stands before it.
    cases before with
    | nil =>
      cases hes
      cases h.symm.trans (not_specifies_iff.1 hvalue)
      exact ⟨rfl, rfl⟩
    | cons e before =>
      cases hes
      exact absurd (hbefore _ List.mem_cons_self) (not_specifies_iff.2 h).1
  · rintro ⟨rfl, rfl⟩
    exact ⟨[], value, es, rfl, List.forall_mem_nil _, not_specifies_iff.2 h⟩

theorem firstRefused_cons_of_ok {keyword keyword' : Decoded} {value : Json} {flag : Bool}
    {problems : List Problem} (h : readSpec value = .ok flag) (es : List (Decoded × Json)) :
    FirstRefused ((keyword, value) :: es) keyword' problems ↔
      FirstRefused es keyword' problems := by
  have hflag : ∃ flag, Specifies value flag := ⟨flag, readSpec_eq_ok_iff.1 h⟩
  constructor
  · rintro ⟨before, value', after, hes, hbefore, hvalue⟩
    cases before with
    | nil =>
      cases hes
      exact absurd hflag hvalue.1
    | cons e before =>
      cases hes
      exact ⟨before, value', after, rfl, (List.forall_mem_cons.1 hbefore).2, hvalue⟩
  · rintro ⟨before, value', after, rfl, hbefore, hvalue⟩
    exact ⟨_ :: before, value', after, rfl, List.forall_mem_cons.2 ⟨hflag, hbefore⟩, hvalue⟩

theorem readSpecs_eq_error_iff {path : Text} {es : List (Decoded × Json)} {e : Error} :
    readSpecs (σ := σ) path es = .error e ↔
      ∃ keyword problems, FirstRefused es keyword problems ∧
        e = .invalidSpec keyword path problems := by
  induction es with
  | nil =>
    constructor
    · intro h
      cases h
    · rintro ⟨_, _, ⟨before, _, _, hes, -⟩, -⟩
      cases before <;> cases hes
  | cons member es ih =>
    obtain ⟨keyword, value⟩ := member
    cases hread : readSpec value with
    | error problems =>
      simp only [readSpecs_of_error hread, firstRefused_cons_of_error hread]
      constructor
      · intro h
        cases h
        exact ⟨_, _, ⟨rfl, rfl⟩, rfl⟩
      · rintro ⟨_, _, ⟨rfl, rfl⟩, rfl⟩
        rfl
    | ok flag =>
      simp only [firstRefused_cons_of_ok hread, readSpecs_of_ok hread, ← ih]
      cases readSpecs (σ := σ) path es with
      | ok bindings => exact ⟨fun h => (nomatch h), fun h => (nomatch h)⟩
      | error e' => exact ⟨fun h => by cases h; rfl, fun h => by cases h; rfl⟩

/-- What a handlers file at a path loads to whose effective members these are. -/
inductive Outcome (path : Text) (es : List (Decoded × Json)) :
    Logged (Except Error (Handlers σ)) → Prop
  /-- Every member binds its keyword, in the order of the members. -/
  | loaded {handlers : Handlers σ} (h : List.Forall₂ Binds es handlers.entries) :
      Outcome path es ⟨.ok handlers, [.handlersLoaded es.length path]⟩
  /-- The first member that specifies no flag refuses the file. -/
  | refused {keyword : Decoded} {problems : List Problem} (h : FirstRefused es keyword problems) :
      Outcome path es ⟨.error (.invalidSpec keyword path problems), []⟩

/-- The file at a path holds an object with these members. -/
def HoldsObject (files : Files) (path : Text) (members : List (Decoded × Json)) : Prop :=
  ∃ bytes text, files (Path.ofText path).text = some (.file bytes) ∧
    decodeFile bytes = some text ∧ Json.ofText maxLevels text = .ok (.object members)

/-- The handlers and the records of a file whose members are these. -/
def loadMembers (path : Text) (es : List (Decoded × Json)) : Logged (Except Error (Handlers σ)) :=
  match (readSpecs path es).map OrderedMap.ofList with
  | .ok handlers => ⟨.ok handlers, [.handlersLoaded handlers.size path]⟩
  | .error e => ⟨.error e, []⟩

theorem HoldsObject.load_eq {files : Files} {path : Text} {members : List (Decoded × Json)}
    (h : HoldsObject files path members) :
    load (σ := σ) files path =
      loadMembers (Path.ofText path).text (Json.effective members).entries := by
  obtain ⟨bytes, text, hfile, hdecode, hjson⟩ := h
  rw [load]
  simp only [hfile, readHandlers, hdecode, handlersOfText, hjson]
  rfl

theorem outcome_loadMembers (path : Text) {es : List (Decoded × Json)}
    (hes : (es.map Prod.fst).Nodup) : Outcome (σ := σ) path es (loadMembers path es) := by
  rw [loadMembers]
  cases hread : readSpecs (σ := σ) path es with
  | error e =>
    obtain ⟨keyword, problems, hrefused, rfl⟩ := readSpecs_eq_error_iff.1 hread
    exact .refused hrefused
  | ok bindings =>
    have hbinds := readSpecs_eq_ok_iff.1 hread
    -- The handlers are bound to the keywords of `es`, in that order and each once.
    have hkeys : bindings.map Prod.fst = es.map Prod.fst := by
      clear hread hes
      induction hbinds with
      | nil => rfl
      | cons hb _ ih => rw [List.map_cons, List.map_cons, ih, hb.1]
    have hentries : (OrderedMap.ofList bindings).entries = bindings :=
      OrderedMap.entries_ofList (hkeys ▸ hes)
    have hsize : (OrderedMap.ofList bindings).size = es.length := by
      rw [OrderedMap.size, hentries, hbinds.length_eq]
    show Outcome path es ⟨.ok _, [.handlersLoaded (OrderedMap.ofList bindings).size path]⟩
    rw [hsize]
    exact .loaded (hentries.symm ▸ hbinds)

theorem Outcome.eq_loadMembers {path : Text} {es : List (Decoded × Json)}
    {r : Logged (Except Error (Handlers σ))} (h : Outcome path es r) : r = loadMembers path es := by
  cases h with
  | @loaded handlers hbinds =>
    have hread : readSpecs path es = .ok handlers.entries := readSpecs_eq_ok_iff.2 hbinds
    have hhandlers : OrderedMap.ofList handlers.entries = handlers :=
      OrderedMap.ext (OrderedMap.entries_ofList handlers.nodup)
    rw [loadMembers, hread, hbinds.length_eq]
    show _ = Logged.mk (Except.ok (OrderedMap.ofList handlers.entries))
      [.handlersLoaded (OrderedMap.ofList handlers.entries).size path]
    rw [hhandlers]
    rfl
  | refused hrefused =>
    rw [loadMembers, readSpecs_eq_error_iff.2 ⟨_, _, hrefused, rfl⟩]
    rfl

/-- Two specifications of which the same fields count. -/
inductive SameSpec : Json → Json → Prop
  | refl (value : Json) : SameSpec value value
  | object {members members' fields : List (Decoded × Json)} (h : Json.IsEffective members fields)
      (h' : Json.IsEffective members' fields) : SameSpec (.object members) (.object members')

theorem SameSpec.readSpec_eq {value value' : Json} (h : SameSpec value value') :
    readSpec value = readSpec value' := by
  cases h with
  | refl => rfl
  | object h h' =>
    have heq : Json.effective _ = Json.effective _ :=
      OrderedMap.ext ((Json.isEffective_iff.1 h).symm.trans (Json.isEffective_iff.1 h'))
    rw [readSpec, readSpec, heq]

/-- Two members of one keyword whose specifications count the same fields. -/
def SameMember (e e' : Decoded × Json) : Prop := e.1 = e'.1 ∧ SameSpec e.2 e'.2

theorem readSpecs_eq_of_same {path : Text} {es es' : List (Decoded × Json)}
    (h : List.Forall₂ SameMember es es') :
    readSpecs (σ := σ) path es = readSpecs path es' := by
  induction h with
  | nil => rfl
  | @cons e e' es es' hsame _ ih => rw [readSpecs, readSpecs, hsame.1, hsame.2.readSpec_eq, ih]

/-- A keyword that is a text is bound in the registry as it is in the file. -/
theorem get?_registryOf (handlers : Handlers σ) (keyword : Text) :
    (registryOf handlers).get? keyword = handlers.get? (Decoded.ofText keyword) := by
  refine Option.ext fun handler => ?_
  -- The registry holds the entries whose keyword is a text.
  have hmem : (keyword, handler) ∈ (registryOf handlers).entries ↔
      (Decoded.ofText keyword, handler) ∈ handlers.entries := by
    show (keyword, handler) ∈ handlers.entries.filterMap _ ↔ _
    simp only [List.mem_filterMap, Option.map_eq_some_iff, Prod.mk.injEq]
    constructor
    · rintro ⟨e, he, name, hname, rfl, rfl⟩
      rwa [← Decoded.text?_eq_some_iff.1 hname]
    · intro he
      exact ⟨_, he, keyword, Decoded.text?_ofText keyword, rfl, rfl⟩
  exact ⟨fun h => OrderedMap.get?_of_mem_entries (hmem.1 (OrderedMap.mem_entries_of_get? h)),
    fun h => OrderedMap.get?_of_mem_entries (hmem.2 (OrderedMap.mem_entries_of_get? h))⟩

/-- A file that holds an object is loaded as a whole or not at all, and its effective members
decide: each of them binds its keyword, or the first that specifies no flag refuses the file with
all that is wrong with it. What a later repetition of a name overwrites does not matter, neither
in the file nor in a specification. The registry of the file is loaded with it, and has of its
keywords those that are texts. -/
theorem load_object {files : Files} {path : Text} {members : List (Decoded × Json)}
    (hfile : HoldsObject files path members) :
    ∃ es, (∀ es', Json.IsEffective members es' ↔ es' = es) ∧
      (∀ r, load (σ := σ) files path = r ↔ Outcome (Path.ofText path).text es r) ∧
      ((∃ handlers, (load (σ := σ) files path).value = .ok handlers) ↔
        ∀ e ∈ es, ∃ flag, Specifies e.2 flag) ∧
      (∀ files' members' es', HoldsObject files' path members' →
        Json.IsEffective members' es' → List.Forall₂ SameMember es' es →
        load (σ := σ) files' path = load files path) ∧
      (∀ e, (loadRegistry (σ := σ) files path).value = .error e ↔
        (load (σ := σ) files path).value = .error e) ∧
      ∀ handlers, (load (σ := σ) files path).value = .ok handlers →
        ∃ registry, (loadRegistry files path).value = .ok registry ∧
          ∀ keyword, registry.get? keyword = handlers.get? (Decoded.ofText keyword) := by
  have hnodup := (Json.effective members).nodup
  have houtcome := outcome_loadMembers (σ := σ) (Path.ofText path).text hnodup
  have hregistry : (loadRegistry (σ := σ) files path).value =
      (load files path).value.map registryOf := rfl
  rw [hregistry, hfile.load_eq]
  refine ⟨_, fun es' => Json.isEffective_iff, fun r => ⟨?_, ?_⟩, ⟨?_, ?_⟩, ?_, fun e => ?_, ?_⟩
  · rintro rfl
    exact houtcome
  · intro h
    exact h.eq_loadMembers.symm
  · rintro ⟨handlers, hvalue⟩ e he
    generalize loadMembers _ _ = r at houtcome hvalue
    cases houtcome with
    | loaded hbinds =>
      have hflags := hbinds.imp fun e b (hb : Binds e b) =>
        And.intro (hb.2.imp fun _ => And.left) hb
      exact ((List.forall₂_and_left _ _).1 hflags).1 e he
    | refused => cases hvalue
  · intro hall
    generalize loadMembers _ _ = r at houtcome
    cases houtcome with
    | loaded => exact ⟨_, rfl⟩
    | refused hrefused =>
      obtain ⟨before, value, after, hes, -, hbad, -⟩ := hrefused
      exact absurd (hall _ (hes ▸ List.mem_append_cons_self)) hbad
  · intro files' members' es' hfile' heffective' hsame
    rw [Json.isEffective_iff] at heffective'
    rw [hfile'.load_eq, ← heffective', loadMembers, loadMembers, readSpecs_eq_of_same hsame]
  · cases (loadMembers (σ := σ) _ _).value <;> simp [Except.map]
  · intro handlers hvalue
    exact ⟨registryOf handlers, by rw [hvalue]; rfl, get?_registryOf handlers⟩

/-- The second specification of `b` counts, and in it the second flag. `c` refuses the file with
what it is bound to last: `2.0` is an integer that is no truth value, and `y` is no field. The
halves of pairs before and after them are keywords of their own. -/
theorem load_object_repeated :
    let text := "\x7b\"\\ud800\": \x7b\x7d, \"b\": 1, \"c\": \x7b\x7d, \"\\udfff\": \x7b\x7d, ".toList ++
      "\"b\": \x7b\"include_keyword\": 2, \"include_keyword\": \"OFF\"\x7d, ".toList ++
      "\"c\": \x7b\"y\": 0, \"include_keyword\": 2.0, \"y\": true\x7d\x7d".toList
    let b : Decoded := [.char 'b']
    let c : Decoded := [.char 'c']
    let y : Decoded := [.char 'y']
    let members : List (Decoded × Json) := [
      ([.half 0xd800 (by decide)], .object []),
      (b, .integer 1),
      (c, .object []),
      ([.half 0xdfff (by decide)], .object []),
      (b, .object [(flagName, .integer 2), (flagName, .string (Decoded.ofText "OFF".toList))]),
      (c, .object [(y, .integer 0), (flagName, .decimal ⟨false, 20, -1⟩), (y, .bool true)])]
    let files : Files := fun _ => some (.file (String.ofList text).toUTF8)
    HoldsObject files [] members ∧
      load (σ := Unit) files [] =
        ⟨.error (.invalidSpec c ['.']
          [⟨"include_keyword".toList, .unreadableFlag⟩, ⟨['y'], .unknownField⟩]), []⟩ := by
  intro text b c y members files
  have hjson : Json.ofText maxLevels text = .ok (.object members) := by
    subst text members b c y
    cbv
  have hlines : Text.unifyNewlines text = text := by
    subst text
    cbv
  have hfile : HoldsObject files [] members :=
    ⟨_, text, rfl, by rw [decodeFile_toUTF8, hlines], hjson⟩
  refine ⟨hfile, ?_⟩
  obtain ⟨es, hes, houtcome, -⟩ := load_object (σ := Unit) hfile
  have hempty : Specifies (.object []) true := readSpec_eq_ok_iff.1 rfl
  have hb : Specifies
      (.object [(flagName, .integer 2), (flagName, .string (Decoded.ofText "OFF".toList))]) false :=
    readSpec_eq_ok_iff.1 rfl
  have htwo : (⟨false, 20, -1⟩ : Decimal).integer? = some 2 := by decide +kernel
  have hlater : Problem.le ⟨['y'], .unknownField⟩ ⟨flagField, .unreadableFlag⟩ = false := rfl
  have hsorted : [⟨['y'], .unknownField⟩, ⟨flagField, .unreadableFlag⟩].mergeSort Problem.le =
      [⟨flagField, .unreadableFlag⟩, ⟨['y'], .unknownField⟩] := by
    simp [List.mergeSort, hlater]
  have hc : readSpec (.object [(y, .integer 0), (flagName, .decimal ⟨false, 20, -1⟩),
      (y, .bool true)]) = .error [⟨flagField, .unreadableFlag⟩, ⟨['y'], .unknownField⟩] := by
    have hflag : memberProblem? flagField (.decimal ⟨false, 20, -1⟩) =
        some ⟨flagField, .unreadableFlag⟩ := by
      rw [memberProblem?, if_pos rfl, flagOfJson, htwo]
      rfl
    have hproblems : fieldProblems [(['y'], .bool true), (flagField, .decimal ⟨false, 20, -1⟩)] =
        [⟨['y'], .unknownField⟩, ⟨flagField, .unreadableFlag⟩] := by
      rw [fieldProblems, List.filterMap_cons, List.filterMap_cons, hflag]
      rfl
    rw [← hsorted, ← hproblems]
    refine readSpec_of_fieldProblems rfl ?_
    rw [hproblems]
    exact List.cons_ne_nil _ _
  rw [houtcome, ← (hes _).1 (Json.isEffective_entries members)]
  refine .refused ⟨[([.half 0xd800 _], _), (b, _)], _, [([.half 0xdfff _], _)], rfl, ?_,
    not_specifies_iff.2 hc⟩
  exact List.forall_mem_cons.2 ⟨⟨true, hempty⟩, List.forall_mem_singleton.2 ⟨false, hb⟩⟩

end HandlersFile

end EscapeClause
