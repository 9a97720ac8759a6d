import Mathlib.Data.List.TakeWhile
import Mathlib.Data.Nat.Find
import EscapeClause.VersionDeclaration

/-!
# The first declaration of a version

A declaration is cut into its parts in more than one way: white space before the equals sign goes to
one side of a missing type or to the other, and a type of one word without an opening bracket is
also two words. `Declaration` is one such cut. What is declared does not depend on it
(`Declaration.value_unique`), so that the reader, which makes every part as long as it can be, finds
what any other would (`declaredAt?_eq_some_iff`).

The main statement is `ofFile_first_declaration`: the version of a file is what the first line with
a declaration declares, and a file without such a line is refused.
-/

namespace EscapeClause.VersionDeclaration

/-! ### Declarations cut into parts -/

def perhaps (c : Char) : Bool → Text
  | true => [c]
  | false => []

/-- The type of a declaration, cut into its parts: white space, a word, an opening bracket or none,
a word that may be empty, and a closing bracket or none. -/
structure DeclaredType where
  gap : Text
  word : Text
  opened : Bool
  parameter : Text
  closed : Bool
  all_isBlank : ∀ c ∈ gap, Text.isBlank c = true
  word_ne_nil : word ≠ []
  all_isWordChar : ∀ c ∈ word, Text.isWordChar c = true
  all_isWordChar_parameter : ∀ c ∈ parameter, Text.isWordChar c = true

def DeclaredType.spelling (type : DeclaredType) : Text :=
  type.gap ++ type.word ++ perhaps '[' type.opened ++ type.parameter ++ perhaps ']' type.closed

/-- What follows the name: a colon and a type, or nothing. -/
def annotated : Option DeclaredType → Text
  | none => []
  | some type => ':' :: type.spelling

/-- A declaration, cut into its parts. White space may stand after the name, before the equals sign
and after it. The two quotes need not be the same. -/
structure Declaration where
  nameGap : Text
  type? : Option DeclaredType
  equalsGap : Text
  valueGap : Text
  opener : Char
  value : Text
  closer : Char
  all_isBlank_nameGap : ∀ c ∈ nameGap, Text.isBlank c = true
  all_isBlank_equalsGap : ∀ c ∈ equalsGap, Text.isBlank c = true
  all_isBlank_valueGap : ∀ c ∈ valueGap, Text.isBlank c = true
  isQuote_opener : isQuote opener = true
  value_ne_nil : value ≠ []
  not_isQuote : ∀ c ∈ value, isQuote c = false
  isQuote_closer : isQuote closer = true

def Declaration.spelling (d : Declaration) : Text :=
  declaredName ++ (d.nameGap ++ annotated d.type? ++ d.equalsGap ++ '=' ::
    (d.valueGap ++ d.opener :: (d.value ++ [d.closer])))

/-- A line of the text starts at an index; `atStart` tells whether the text itself begins one. -/
def StartsLine (atStart : Bool) (t : Text) : Nat → Prop
  | 0 => atStart = true
  | i + 1 => t[i]? = some '\n'

instance (atStart : Bool) (t : Text) : (i : Nat) → Decidable (StartsLine atStart t i)
  | 0 => inferInstanceAs (Decidable (atStart = true))
  | i + 1 => inferInstanceAs (Decidable (t[i]? = some '\n'))

/-- A line starts at the index, and a declaration of `v` stands there. -/
def DeclaresAt (t : Text) (i : Nat) (v : Text) : Prop :=
  StartsLine true t i ∧ ∃ d : Declaration, d.value = v ∧ d.spelling <+: t.drop i

/-- The text declares `v` at the index, and nothing before it. -/
def DeclaresFirst (t : Text) (i : Nat) (v : Text) : Prop :=
  DeclaresAt t i v ∧ ∀ j < i, ∀ w, ¬ DeclaresAt t j w

/-! ### Reading a type -/

theorem exists_perhaps_append_skip (c : Char) (t : Text) :
    ∃ present, perhaps c present ++ skip c t = t := by
  cases t with
  | nil => exact ⟨false, rfl⟩
  | cons d t =>
    by_cases hd : d = c
    · exact ⟨true, by rw [skip, if_pos hd, hd]; rfl⟩
    · exact ⟨false, by rw [skip, if_neg hd]; rfl⟩

theorem skip_cons (c : Char) (t : Text) : skip c (c :: t) = t := if_pos rfl

theorem skip_perhaps_append {c : Char} {t : Text} (h : ∀ d ∈ t.head?, d ≠ c) (present : Bool) :
    skip c (perhaps c present ++ t) = t := by
  cases present with
  | true => exact skip_cons c t
  | false =>
    cases t with
    | nil => rfl
    | cons d t => exact if_neg (h d rfl)

/-- Nothing that stands first would make a type before it longer. -/
def EndsType (t : Text) : Prop :=
  ∀ c ∈ t.head?, Text.isWordChar c = false ∧ c ≠ '[' ∧ c ≠ ']'

theorem endsType_gap_append {gap : Text} (hgap : ∀ c ∈ gap, Text.isBlank c = true) (t : Text) :
    EndsType (gap ++ '=' :: t) := by
  intro c hc
  cases gap with
  | nil =>
    cases hc
    decide
  | cons d gap =>
    cases hc
    have hblank := hgap c List.mem_cons_self
    -- White space is neither part of a word nor a bracket.
    refine ⟨Text.not_isWordChar_of_isBlank hblank, ?_, ?_⟩
    · rintro rfl
      exact absurd hblank (by decide)
    · rintro rfl
      exact absurd hblank (by decide)

/-- Behind the words of a type stands a closing bracket, or what ends the type. -/
theorem EndsType.perhaps_append {t : Text} (h : EndsType t) (closed : Bool) :
    ∀ c ∈ (perhaps ']' closed ++ t).head?, Text.isWordChar c = false ∧ c ≠ '[' := by
  intro c hc
  cases closed with
  | false => exact ⟨(h c hc).1, (h c hc).2.1⟩
  | true =>
    cases hc
    decide

theorem afterType?_append {gap word t : Text} (hgap : ∀ c ∈ gap, Text.isBlank c = true)
    (hne : word ≠ []) (hword : ∀ c ∈ word, Text.isWordChar c = true)
    (ht : ∀ c ∈ t.head?, Text.isWordChar c = false) :
    afterType? (gap ++ (word ++ t)) =
      some (skip ']' ((skip '[' t).dropWhile Text.isWordChar)) := by
  -- The word starts with something that is not white space, so the gap ends before it.
  have hhead : ∀ c ∈ (word ++ t).head?, Text.isBlank c = false := by
    intro c hc
    obtain ⟨d, rest, rfl⟩ := List.exists_cons_of_ne_nil hne
    cases hc
    rw [← Bool.not_eq_true]
    intro hblank
    have hc := hword c List.mem_cons_self
    rw [Text.not_isWordChar_of_isBlank hblank] at hc
    cases hc
  rw [afterType?, Text.dropWhile_append_of_head? hgap hhead]
  simp only [Text.takeWhile_append_of_head? hword ht, Text.dropWhile_append_of_head? hword ht]
  exact if_neg hne

/-- A type is read to its end, however it is cut. -/
theorem afterType?_spelling_append (type : DeclaredType) {t : Text} (ht : EndsType t) :
    afterType? (type.spelling ++ t) = some t := by
  obtain ⟨gap, word, opened, parameter, closed, hgap, hne, hword, hparameter⟩ := type
  have htail := ht.perhaps_append closed
  have hskip : skip ']' (perhaps ']' closed ++ t) = t :=
    skip_perhaps_append (fun c hc => (ht c hc).2.2) closed
  simp only [DeclaredType.spelling, List.append_assoc]
  generalize perhaps ']' closed ++ t = tail at htail hskip ⊢
  have hdrop : ∀ w : Text, (∀ c ∈ w, Text.isWordChar c = true) →
      (w ++ tail).dropWhile Text.isWordChar = tail := by
    intro w hw
    exact Text.dropWhile_append_of_head? hw fun c hc => (htail c hc).1
  cases opened with
  | true =>
    have hbracket : ∀ c ∈ (perhaps '[' true ++ (parameter ++ tail)).head?,
        Text.isWordChar c = false := by
      rintro c ⟨⟩
      decide
    have hopened : skip '[' (perhaps '[' true ++ (parameter ++ tail)) = parameter ++ tail :=
      skip_cons '[' _
    rw [afterType?_append hgap hne hword hbracket, hopened, hdrop parameter hparameter, hskip]
  | false =>
    -- The two words are one to the reader.
    have hwords : ∀ c ∈ word ++ parameter, Text.isWordChar c = true :=
      List.forall_mem_append.2 ⟨hword, hparameter⟩
    have hopened : skip '[' tail = tail :=
      skip_perhaps_append (fun c hc => (htail c hc).2) false
    rw [perhaps, List.nil_append, ← List.append_assoc word,
      afterType?_append hgap (List.append_ne_nil_of_left_ne_nil hne _) hwords
        fun c hc => (htail c hc).1,
      hopened, ← List.nil_append tail, hdrop [] (List.forall_mem_nil _), hskip]

theorem exists_spelling_of_afterType? {t r : Text} (h : afterType? t = some r) :
    ∃ type : DeclaredType, type.spelling ++ r = t := by
  rw [afterType?] at h
  simp only at h
  split at h
  · cases h
  · next hne =>
    -- Each part is what reading has skipped; put together they are the text.
    generalize hu : t.dropWhile Text.isBlank = u at h hne
    obtain ⟨opened, hopened⟩ := exists_perhaps_append_skip '[' (u.dropWhile Text.isWordChar)
    generalize skip '[' (u.dropWhile Text.isWordChar) = s at h hopened
    obtain ⟨closed, hclosed⟩ := exists_perhaps_append_skip ']' (s.dropWhile Text.isWordChar)
    cases h
    refine ⟨⟨t.takeWhile Text.isBlank, u.takeWhile Text.isWordChar, opened,
      s.takeWhile Text.isWordChar, closed, fun c hc => List.mem_takeWhile_imp hc, hne,
      fun c hc => List.mem_takeWhile_imp hc, fun c hc => List.mem_takeWhile_imp hc⟩, ?_⟩
    simp only [DeclaredType.spelling, List.append_assoc]
    rw [hclosed, List.takeWhile_append_dropWhile, hopened, List.takeWhile_append_dropWhile, ← hu,
      List.takeWhile_append_dropWhile]

/-! ### Reading a declaration -/

theorem exists_of_afterEquals? {t r : Text} (h : afterEquals? t = some r) :
    ∃ nameGap type? equalsGap, (∀ c ∈ nameGap, Text.isBlank c = true) ∧
      (∀ c ∈ equalsGap, Text.isBlank c = true) ∧
      nameGap ++ annotated type? ++ equalsGap ++ '=' :: r = t := by
  rw [afterEquals?] at h
  obtain ⟨s, htyped, hequals⟩ := Option.bind_eq_some_iff.1 h
  -- A colon was there and a type behind it, or the equals sign is due at once.
  have hannotated : ∃ type?, annotated type? ++ s = t.dropWhile Text.isBlank := by
    split at htyped
    · next heq =>
      obtain ⟨type, rfl⟩ := exists_spelling_of_afterType? htyped
      exact ⟨some type, heq.symm⟩
    · cases htyped
      exact ⟨none, rfl⟩
  have hsign : s.dropWhile Text.isBlank = '=' :: r := by
    split at hequals
    · next heq =>
      cases hequals
      exact heq
    · cases hequals
  obtain ⟨type?, htype⟩ := hannotated
  refine ⟨t.takeWhile Text.isBlank, type?, s.takeWhile Text.isBlank,
    fun c hc => List.mem_takeWhile_imp hc, fun c hc => List.mem_takeWhile_imp hc, ?_⟩
  rw [← hsign, List.append_assoc, List.takeWhile_append_dropWhile, List.append_assoc, htype,
    List.takeWhile_append_dropWhile]

/-- What stands before the equals sign is read to its end, however it is cut. -/
theorem afterEquals?_append {nameGap equalsGap : Text}
    (hname : ∀ c ∈ nameGap, Text.isBlank c = true)
    (hequals : ∀ c ∈ equalsGap, Text.isBlank c = true) (type? : Option DeclaredType) (r : Text) :
    afterEquals? (nameGap ++ annotated type? ++ equalsGap ++ '=' :: r) = some r := by
  have hsign : (equalsGap ++ '=' :: r).dropWhile Text.isBlank = '=' :: r :=
    Text.dropWhile_append_of_head? hequals (by rintro c ⟨⟩; decide)
  cases type? with
  | none =>
    -- The two gaps are one to the reader.
    have hdrop : (nameGap ++ annotated none ++ equalsGap ++ '=' :: r).dropWhile Text.isBlank =
        '=' :: r := by
      rw [annotated, List.append_nil, List.append_assoc, List.dropWhile_append_of_pos hname, hsign]
    rw [afterEquals?, hdrop]
    rfl
  | some type =>
    have hdrop : (nameGap ++ annotated (some type) ++ equalsGap ++ '=' :: r).dropWhile
        Text.isBlank = ':' :: (type.spelling ++ (equalsGap ++ '=' :: r)) := by
      rw [annotated, List.append_assoc, List.append_assoc]
      exact Text.dropWhile_append_of_head? hname (by rintro c ⟨⟩; decide)
    have htype := afterType?_spelling_append type (endsType_gap_append hequals r)
    rw [afterEquals?, hdrop]
    simp only [htype, Option.bind_some, hsign]

theorem not_isBlank_of_isQuote {c : Char} (h : isQuote c = true) : Text.isBlank c = false := by
  rw [isQuote, Bool.or_eq_true, beq_iff_eq, beq_iff_eq] at h
  rcases h with rfl | rfl <;> decide

theorem exists_of_quotedText? {t v : Text} (h : quotedText? t = some v) :
    ∃ gap opener closer rest, (∀ c ∈ gap, Text.isBlank c = true) ∧ isQuote opener = true ∧
      v ≠ [] ∧ (∀ c ∈ v, isQuote c = false) ∧ isQuote closer = true ∧
      gap ++ opener :: (v ++ closer :: rest) = t := by
  rw [quotedText?] at h
  split at h
  · cases h
  · next opener r heq =>
    simp only [Option.ite_none_right_eq_some, Bool.and_eq_true, bne_iff_ne,
      Option.some.injEq] at h
    obtain ⟨⟨⟨hopener, hne⟩, hclosed⟩, rfl⟩ := h
    obtain ⟨closer, rest, hrest⟩ := List.exists_cons_of_ne_nil hclosed
    -- The value ends at the first quote of either kind.
    have hcloser := r.head?_dropWhile_not fun d => !isQuote d
    rw [hrest] at hcloser
    refine ⟨t.takeWhile Text.isBlank, opener, closer, rest,
      fun c hc => List.mem_takeWhile_imp hc, hopener, hne, ?_, by simpa using hcloser, ?_⟩
    · intro c hc
      simpa using List.mem_takeWhile_imp hc
    · rw [← hrest, List.takeWhile_append_dropWhile, ← heq, List.takeWhile_append_dropWhile]

theorem quotedText?_append {gap v : Text} {opener closer : Char}
    (hgap : ∀ c ∈ gap, Text.isBlank c = true) (hopener : isQuote opener = true) (hne : v ≠ [])
    (hv : ∀ c ∈ v, isQuote c = false) (hcloser : isQuote closer = true) (rest : Text) :
    quotedText? (gap ++ opener :: (v ++ closer :: rest)) = some v := by
  -- Nothing but white space stands before the quote.
  have hdrop : (gap ++ opener :: (v ++ closer :: rest)).dropWhile Text.isBlank =
      opener :: (v ++ closer :: rest) :=
    Text.dropWhile_append_of_head? hgap (by rintro c ⟨⟩; exact not_isBlank_of_isQuote hopener)
  have hvalue : ∀ c ∈ v, (!isQuote c) = true := by
    intro c hc
    rw [hv c hc]
    rfl
  have hend : ∀ c ∈ (closer :: rest).head?, (!isQuote c) = false := by
    rintro c ⟨⟩
    rw [hcloser]
    rfl
  rw [quotedText?, hdrop]
  simp [Text.takeWhile_append_of_head? hvalue hend, Text.dropWhile_append_of_head? hvalue hend,
    hopener, hne]

/-- The reader finds a declaration exactly where one stands, and what it declares in any cut. -/
theorem declaredAt?_eq_some_iff {t v : Text} :
    declaredAt? t = some v ↔ ∃ d : Declaration, d.value = v ∧ d.spelling <+: t := by
  simp only [declaredAt?, Option.bind_eq_some_iff, Text.dropStart?_eq_some_iff]
  -- From left to right the parts are taken from the readers, from right to left each reader stops
  -- where its part ends.
  constructor
  · rintro ⟨_, rfl, _, hequals, hvalue⟩
    obtain ⟨nameGap, type?, equalsGap, hname, hgap, rfl⟩ := exists_of_afterEquals? hequals
    obtain ⟨valueGap, opener, closer, rest, hblank, hopener, hne, hv, hcloser, rfl⟩ :=
      exists_of_quotedText? hvalue
    refine ⟨⟨nameGap, type?, equalsGap, valueGap, opener, v, closer, hname, hgap, hblank, hopener,
      hne, hv, hcloser⟩, rfl, rest, ?_⟩
    simp [Declaration.spelling]
  · rintro ⟨d, rfl, rest, rfl⟩
    refine ⟨_, ?_, _, afterEquals?_append d.all_isBlank_nameGap d.all_isBlank_equalsGap d.type? _,
      quotedText?_append d.all_isBlank_valueGap d.isQuote_opener d.value_ne_nil d.not_isQuote
        d.isQuote_closer rest⟩
    simp [Declaration.spelling]

/-- What stands first in a text declares one version, however it is cut. -/
theorem Declaration.value_unique {d d' : Declaration} {t : Text} (h : d.spelling <+: t)
    (h' : d'.spelling <+: t) : d'.value = d.value :=
  Option.some.inj ((declaredAt?_eq_some_iff.2 ⟨d', rfl, h'⟩).symm.trans
    (declaredAt?_eq_some_iff.2 ⟨d, rfl, h⟩))

/-! ### The first line with a declaration -/

theorem startsLine_cons_succ {atStart : Bool} {c : Char} {t : Text} {i : Nat} :
    StartsLine atStart (c :: t) (i + 1) ↔ StartsLine (c == '\n') t i := by
  cases i with
  | zero => simp [StartsLine]
  | succ i => exact Iff.rfl

/-- A search from line to line comes upon `v` at the index, and upon nothing before it. -/
def FoundAt (atStart : Bool) (t : Text) (i : Nat) (v : Text) : Prop :=
  StartsLine atStart t i ∧ declaredAt? (t.drop i) = some v ∧
    ∀ j < i, StartsLine atStart t j → declaredAt? (t.drop j) = none

theorem foundAt_zero_iff {atStart : Bool} {t v : Text} :
    FoundAt atStart t 0 v ↔ atStart = true ∧ declaredAt? t = some v := by
  simp [FoundAt, StartsLine]

theorem foundAt_succ_iff {atStart : Bool} {c : Char} {t v : Text} {i : Nat} :
    FoundAt atStart (c :: t) (i + 1) v ↔
      (atStart = true → declaredAt? (c :: t) = none) ∧ FoundAt (c == '\n') t i v := by
  simp only [FoundAt, Nat.forall_lt_succ_left, startsLine_cons_succ, List.drop_succ_cons,
    List.drop_zero]
  rw [← and_assoc, and_left_comm, and_assoc]
  exact Iff.rfl

/-- What the search does at one code point. -/
theorem firstDeclared?_cons_eq_some_iff {atStart : Bool} {c : Char} {t v : Text} :
    firstDeclared? atStart (c :: t) = some v ↔
      atStart = true ∧ declaredAt? (c :: t) = some v ∨
        (atStart = true → declaredAt? (c :: t) = none) ∧
          firstDeclared? (c == '\n') t = some v := by
  rw [firstDeclared?]
  -- Within a line there is nothing to be found here.
  cases atStart with
  | false => simp
  | true =>
    cases declaredAt? (c :: t) with
    | none => simp
    | some w => simp

theorem firstDeclared?_eq_some_iff {atStart : Bool} {t v : Text} :
    firstDeclared? atStart t = some v ↔ ∃ i, FoundAt atStart t i v := by
  induction t generalizing atStart with
  | nil =>
    refine iff_of_false (fun h => nomatch h) ?_
    rintro ⟨i, -, hi, -⟩
    rw [List.drop_nil] at hi
    cases hi
  | cons c t ih =>
    -- The first index is settled here, the others in the rest of the text.
    rw [firstDeclared?_cons_eq_some_iff, ih,
      ← Nat.or_exists_add_one (p := fun i => FoundAt atStart (c :: t) i v)]
    simp only [foundAt_zero_iff, foundAt_succ_iff, exists_and_left]

theorem declaresAt_iff {t v : Text} {i : Nat} :
    DeclaresAt t i v ↔ StartsLine true t i ∧ declaredAt? (t.drop i) = some v := by
  rw [DeclaresAt, declaredAt?_eq_some_iff]

theorem forall_not_declaresAt_iff {t : Text} {i : Nat} :
    (∀ v, ¬ DeclaresAt t i v) ↔ (StartsLine true t i → declaredAt? (t.drop i) = none) := by
  simp only [declaresAt_iff, not_and, Option.eq_none_iff_forall_ne_some]
  exact forall_comm

theorem declared?_eq_some_iff {t v : Text} :
    declared? t = some v ↔ ∃ i, DeclaresFirst t i v := by
  -- The earlier lines first: about them it is said of all versions at once.
  simp only [DeclaresFirst, forall_not_declaresAt_iff]
  simp only [declared?, firstDeclared?_eq_some_iff, FoundAt, declaresAt_iff, and_assoc]

/-- Where something is declared, something is declared first. -/
theorem DeclaresAt.exists_declaresFirst {t v : Text} {i : Nat} (h : DeclaresAt t i v) :
    ∃ j w, DeclaresFirst t j w := by
  classical
  have hex : ∃ j w, DeclaresAt t j w := ⟨i, v, h⟩
  obtain ⟨w, hw⟩ := Nat.find_spec hex
  exact ⟨Nat.find hex, w, hw, fun j hj w' hw' => Nat.find_min hex hj ⟨w', hw'⟩⟩

theorem declared?_eq_none_iff {t : Text} : declared? t = none ↔ ∀ i v, ¬ DeclaresAt t i v := by
  constructor
  · intro hnone i v h
    obtain ⟨j, w, hfirst⟩ := h.exists_declaresFirst
    rw [declared?_eq_some_iff.2 ⟨j, hfirst⟩] at hnone
    cases hnone
  · intro hnone
    rw [Option.eq_none_iff_forall_ne_some]
    intro v hv
    obtain ⟨i, hfirst⟩ := declared?_eq_some_iff.1 hv
    exact hnone i v hfirst.1

/-! ### The version of a file -/

section

variable {files : Files} {path content : Text}
  (hfile : files (Path.ofText path).text = some (.file (String.ofList content).toUTF8))

include hfile

theorem ofFile_eq_ok_iff {v : Text} :
    ofFile files path = .ok v ↔ declared? (Text.unifyNewlines content) = some v := by
  simp only [ofFile, hfile, decodeFile_toUTF8]
  cases declared? (Text.unifyNewlines content) with
  | none => simp
  | some w => simp

theorem ofFile_eq_error_iff {e : Error} :
    ofFile files path = .error e ↔
      e = .noDeclaration path ∧ declared? (Text.unifyNewlines content) = none := by
  simp only [ofFile, hfile, decodeFile_toUTF8]
  cases declared? (Text.unifyNewlines content) with
  | none => simp [eq_comm]
  | some w => simp

end

/-- At the start of a line no more than one version is declared. The version of a file is what the
first line with a declaration declares, whatever stands before it and behind it; a file is refused
exactly when no line starts with a declaration. -/
theorem ofFile_first_declaration {files : Files} {path content : Text}
    (hfile : files (Path.ofText path).text = some (.file (String.ofList content).toUTF8)) :
    let text := Text.unifyNewlines content
    (∀ i v v', DeclaresAt text i v → DeclaresAt text i v' → v' = v) ∧
      (∀ v, ofFile files path = .ok v ↔ ∃ i, DeclaresFirst text i v) ∧
      (∀ e, ofFile files path = .error e ↔
        e = .noDeclaration path ∧ ∀ i v, ¬ DeclaresAt text i v) ∧
      (Error.noDeclaration path).message = "Could not find __version__ in ".toList ++ path := by
  intro text
  refine ⟨?_, fun v => ?_, fun e => ?_, rfl⟩
  · rintro i v v' ⟨-, d, rfl, hd⟩ ⟨-, d', rfl, hd'⟩
    -- The two declarations stand at one place.
    exact Declaration.value_unique hd hd'
  · rw [ofFile_eq_ok_iff hfile, declared?_eq_some_iff]
  · rw [ofFile_eq_error_iff hfile, declared?_eq_none_iff]

/-- The declaration is on lines of its own behind one that lacks a quote. Its type has a closing
bracket only and is cut into two words. -/
theorem ofFile_first_declaration_lines :
    let content := "__version__ = 1\r\n__version__: Final]\r= '0.1.0\" # 2'".toList
    let node : FileNode := .file (String.ofList content).toUTF8
    let files := (FileTree.ofList [("v.py".toList, node)]).files
    files (Path.ofText "./v.py".toList).text = some node ∧
      DeclaresFirst (Text.unifyNewlines content) 16 "0.1.0".toList ∧
      ofFile files "./v.py".toList = .ok "0.1.0".toList := by
  intro content node files
  have hfile : files (Path.ofText "./v.py".toList).text = some node := rfl
  let type : DeclaredType :=
    ⟨[' '], ['F'], false, "inal".toList, true, List.all_eq_true.1 (by decide), by decide,
      List.all_eq_true.1 (by decide), List.all_eq_true.1 (by decide)⟩
  let d : Declaration :=
    ⟨[], some type, ['\n'], [' '], '\'', "0.1.0".toList, '"', List.forall_mem_nil _,
      List.all_eq_true.1 (by decide), List.all_eq_true.1 (by decide), by decide, by decide,
      by simp [isQuote], by decide⟩
  have hlater : DeclaresAt (Text.unifyNewlines content) 16 "0.1.0".toList :=
    ⟨by decide, d, rfl, by decide⟩
  have hfirst : DeclaresFirst (Text.unifyNewlines content) 16 "0.1.0".toList := by
    refine ⟨hlater, fun j hj => forall_not_declaresAt_iff.2 ?_⟩
    revert j
    decide
  exact ⟨hfile, hfirst, ((ofFile_first_declaration hfile).2.1 _).2 ⟨16, hfirst⟩⟩

end EscapeClause.VersionDeclaration
