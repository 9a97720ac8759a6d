import EscapeClause.Proofs.ClauseFree
import EscapeClause.Proofs.Spacing

/-!
# Nested function clauses

A function clause whose arguments may be function clauses again is a tree of calls (`CallTree`).
Its value is computed from the leaves up: a renamed function has its other name before the values
of its arguments, and a concatenation has an operator between them (`CallTree.value`).

The answer to an inner clause becomes part of the argument tail of the clause around it, where it
is read as plain text: the tail is taken for one call, and its group is cut into fields. That goes
well because every value is an operand again, that is trimmed, balanced, free of clauses and
without a comma that separates fields (`CallTree.isOperand_value`).

The main statement is `expandStandard_spelling`: a tree of calls is expanded to its value.
-/

namespace EscapeClause

/-! ### Operands -/

/-- A text that can be an argument of a call: it can stand between commas, it is trimmed and not
empty, and there are no clauses in it. -/
structure IsOperand (t : Text) : Prop extends IsSegment t where
  ne_nil : t ≠ []
  strip_eq : Text.strip t = t
  clauseFree : ClauseFree t

/-- Operands with an operator between each two are an operand. -/
theorem IsOperand.join {operator : Text} (hsegment : IsSegment operator)
    (hfree : ClauseFree operator) {args : List Text} (hne : args ≠ [])
    (h : ∀ arg ∈ args, IsOperand arg) : IsOperand (Text.join operator args) where
  toIsSegment := hsegment.join fun arg harg => (h arg harg).toIsSegment
  ne_nil := by
    obtain ⟨arg, rest, rfl⟩ := List.exists_cons_of_ne_nil hne
    exact Text.join_ne_nil (h arg List.mem_cons_self).ne_nil operator rest
  strip_eq := Text.strip_join (fun arg harg => (h arg harg).ne_nil) fun arg harg =>
    (h arg harg).strip_eq
  clauseFree := hfree.join fun arg harg => (h arg harg).clauseFree

namespace ScalarCall

/-- Names are not changed by trimming. -/
theorem strip_of_all_isNameChar {t : Text} (h : ∀ c ∈ t, isNameChar c = true) :
    Text.strip t = t := by
  have hblank : ∀ c ∈ t, Text.isBlank c = false := by
    intro c hc
    rw [← Bool.not_eq_true]
    intro hblank
    have hname := h c hc
    rw [not_isNameChar_of_isBlank hblank] at hname
    cases hname
  exact Text.strip_eq_self_iff.2 ⟨fun c hc => hblank c (List.mem_of_head? hc),
    fun c hc => hblank c (List.mem_of_getLast? hc)⟩

/-- A letter is part of names in both cases. -/
theorem isNameChar_of_toUpper {c : Char} (h : isNameChar c.toUpper = true) :
    isNameChar c = true := by
  by_cases hrange : c.val ≥ 'a'.val ∧ c.val ≤ 'z'.val
  · have hlower : c.isLower = true :=
      Bool.and_eq_true_iff.2 ⟨decide_eq_true hrange.1, decide_eq_true hrange.2⟩
    delta isNameChar Char.isAlphanum Char.isAlpha
    simp [hlower]
  · have hupper : c.toUpper = c := dif_neg hrange
    rwa [hupper] at h

theorem all_isNameChar_of_upperAscii {t : Text}
    (h : ∀ c ∈ Text.upperAscii t, isNameChar c = true) : ∀ c ∈ t, isNameChar c = true :=
  fun _ hc => isNameChar_of_toUpper (h _ (List.mem_map_of_mem hc))

theorem clauseFree_of_isNameChar {t : Text} (h : ∀ c ∈ t, isNameChar c = true) : ClauseFree t :=
  clauseFree_of_plain fun c hc => isPlain_of_isNameChar (h c hc)

theorem clauseFree_separator : ClauseFree ", ".toList :=
  clauseFree_of_plain (List.all_eq_true.1 (by decide))

theorem clauseFree_open : ClauseFree ['('] := clauseFree_of_plain (List.all_eq_true.1 (by decide))

theorem clauseFree_close : ClauseFree [')'] := clauseFree_of_plain (List.all_eq_true.1 (by decide))

def callText (name : Text) (args : List Text) : Text :=
  name ++ '(' :: Text.join ", ".toList args ++ [')']

section CallText

variable {name : Text} {args : List Text} (hname : ∀ c ∈ name, isNameChar c = true)
  (hne : name ≠ [])

include hname hne

theorem writes_callText :
    Writes ⟨name, [], some (Text.join ", ".toList args)⟩ (callText name args) where
  name_ne_nil := hne
  all_isNameChar := hname
  all_isBlank := by simp
  spelling_eq := by simp [spelling, group, enclose, callText]

/-- A call of operands is an operand. -/
theorem isOperand_callText (h : ∀ arg ∈ args, IsOperand arg) : IsOperand (callText name args) where
  toIsSegment := by
    -- The arguments stand inside the group, where their commas and bars separate nothing.
    have hcommas : Balanced ", ".toList :=
      balanced_of_class (p := fun c => c == ',' || c == ' ') (by decide)
        (List.all_eq_true.1 (by decide))
    have hargs := hcommas.join fun arg harg => (h arg harg).balanced
    rw [callText, List.append_assoc]
    exact (IsSegment.of_class (by decide) hname).append (.group hargs)
  ne_nil := by simp [callText, hne]
  strip_eq := by
    have hclose : Text.strip [')'] = [')'] := by decide
    exact Text.strip_append_of_ne_nil hne (by simp) (strip_of_all_isNameChar hname) hclose _
  clauseFree := by
    have hargs := clauseFree_separator.join fun arg harg => (h arg harg).clauseFree
    have hgroup := clauseFree_open.append hargs
    exact ((clauseFree_of_isNameChar hname).append hgroup).append clauseFree_close

end CallText

end ScalarCall

open ScalarCall (callText clauseFree_close clauseFree_of_isNameChar clauseFree_open
  clauseFree_separator isOperand_callText writes_callText)

/-! ### Functions -/

/-- The name of a function that SQLite has under another name or as an operator, written in small
and capital letters as one likes. -/
inductive FunctionName
  | concat (name : Text) (h : Text.upperAscii name = "CONCAT".toList)
  | renamed (name other : Text)
    (h : renamedFunctions.lookup (Text.upperAscii name) = some other)

/-- The names in the table are names, and none is empty. -/
theorem renamedFunctions_names : ∀ entry ∈ renamedFunctions,
    (entry.1 ≠ [] ∧ entry.1.all ScalarCall.isNameChar = true) ∧
      entry.2 ≠ [] ∧ entry.2.all ScalarCall.isNameChar = true := by
  decide

theorem mem_renamedFunctions_of_lookup {name other : Text}
    (h : renamedFunctions.lookup name = some other) : (name, other) ∈ renamedFunctions := by
  obtain ⟨front, back, hentries, -⟩ := List.lookup_eq_some_iff.1 h
  simp [hentries]

namespace FunctionName

def text : FunctionName → Text
  | concat name _ => name
  | renamed name _ _ => name

def apply : FunctionName → List Text → Text
  | concat _ _, args => Text.join " || ".toList args
  | renamed _ other _, args => callText other args

theorem text_ne_nil (f : FunctionName) : f.text ≠ [] := by
  cases f with
  | concat name h =>
    rintro rfl
    cases h
  | renamed name other h =>
    rintro rfl
    exact (renamedFunctions_names _ (mem_renamedFunctions_of_lookup h)).1.1 rfl

theorem all_isNameChar (f : FunctionName) : ∀ c ∈ f.text, ScalarCall.isNameChar c = true := by
  apply ScalarCall.all_isNameChar_of_upperAscii
  cases f with
  | concat name h =>
    rw [text, h]
    exact List.all_eq_true.1 (by decide)
  | renamed name other h =>
    have hnames := renamedFunctions_names _ (mem_renamedFunctions_of_lookup h)
    exact List.all_eq_true.1 hnames.1.2

/-- A call of operands is written in the dialect as one would write it. -/
theorem sqliteCall_callText (f : FunctionName) {args : List Text}
    (h : ∀ arg ∈ args, IsOperand arg) : sqliteCall (callText f.text args) = f.apply args := by
  rw [sqliteCall_of_writes (writes_callText f.all_isNameChar f.text_ne_nil)]
  -- Concatenation splits its group into fields again; every other name is only replaced.
  cases f with
  | concat name hname =>
    have hconcat : ScalarCall.IsConcatenation ⟨name, [], some (Text.join ", ".toList args)⟩ :=
      ⟨hname, rfl⟩
    obtain ⟨inner, hinner, hsqlite⟩ := hconcat.exists_inner
    cases hinner
    have hfields : fields (Text.join ", ".toList args) = args :=
      fields_join (fun arg harg => (h arg harg).toIsSegment)
        (fun arg harg => (h arg harg).strip_eq) fun arg harg => (h arg harg).ne_nil
    rw [hfields] at hsqlite
    exact hsqlite
  | renamed name other hname =>
    simp only [text, ScalarCall.sqlite, hname, apply, callText, ScalarCall.group,
      ScalarCall.enclose, List.append_assoc]

theorem isOperand_apply (f : FunctionName) {args : List Text} (hne : args ≠ [])
    (h : ∀ arg ∈ args, IsOperand arg) : IsOperand (f.apply args) := by
  cases f with
  | concat name hname =>
    have hsegment : IsSegment " || ".toList :=
      .of_class (p := fun c => c == '|' || c == ' ') (by decide)
        (List.all_eq_true.1 (by decide))
    have hfree : ClauseFree " || ".toList :=
      clauseFree_of_plain (List.all_eq_true.1 (by decide))
    exact IsOperand.join hsegment hfree hne h
  | renamed name other hname =>
    have hother := (renamedFunctions_names _ (mem_renamedFunctions_of_lookup hname)).2
    exact isOperand_callText (List.all_eq_true.1 hother.2) hother.1 h

end FunctionName

/-! ### Trees of calls -/

mutual

/-- An expression of nested function clauses. -/
inductive CallTree
  | leaf (t : Text) (ht : IsOperand t)
  | call (f : FunctionName) (args : CallTrees)

/-- The arguments of a call, at least one. -/
inductive CallTrees
  | last (e : CallTree)
  | cons (e : CallTree) (rest : CallTrees)

end

mutual

/-- The text of an expression: every call is a clause. -/
def CallTree.spelling : CallTree → Text
  | .leaf t _ => t
  | .call f args => "\x7bfn ".toList ++ callText f.text args.spellings ++ ['\x7d']

def CallTrees.spellings : CallTrees → List Text
  | .last e => [e.spelling]
  | .cons e rest => e.spelling :: rest.spellings

end

mutual

/-- An expression in the dialect of SQLite. -/
def CallTree.value : CallTree → Text
  | .leaf t _ => t
  | .call f args => f.apply args.values

def CallTrees.values : CallTrees → List Text
  | .last e => [e.value]
  | .cons e rest => e.value :: rest.values

end

theorem CallTrees.values_ne_nil (args : CallTrees) : args.values ≠ [] := by
  cases args <;> simp [values]

theorem CallTrees.spellings_ne_nil (args : CallTrees) : args.spellings ≠ [] := by
  cases args <;> simp [spellings]

mutual

/-- The value of an expression can be an argument again. -/
theorem CallTree.isOperand_value : ∀ e : CallTree, IsOperand e.value
  | .leaf _ ht => ht
  | .call f args => f.isOperand_apply args.values_ne_nil args.isOperand_values

theorem CallTrees.isOperand_values : ∀ args : CallTrees, ∀ v ∈ args.values, IsOperand v
  | .last e => by
    rw [CallTrees.values, List.forall_mem_singleton]
    exact e.isOperand_value
  | .cons e rest => by
    rw [CallTrees.values, List.forall_mem_cons]
    exact ⟨e.isOperand_value, rest.isOperand_values⟩

end

/-! ### Expanding a tree -/

/-- Items spell the text, and their value is `v` whatever the state is. -/
def Means {σ : Type} (handlers : Registry σ) (t v : Text) : Prop :=
  ∃ items : Items, items.spelling = t ∧
    ∀ s, ∃ calls s', items.value handlers s = some ⟨v, calls, s'⟩

namespace Means

variable {σ : Type} {handlers : Registry σ}

theorem expand_eq {t v : Text} (h : Means handlers t v) (s : σ) :
    (expand handlers t s).result = .ok v := by
  obtain ⟨items, hspelling, hvalue⟩ := h
  obtain ⟨calls, s', hvalue⟩ := hvalue s
  exact expand_ok_iff_value.2 ⟨items, hspelling, _, hvalue, rfl⟩

theorem append {t t' v v' : Text} (h : Means handlers t v) (h' : Means handlers t' v') :
    Means handlers (t ++ t') (v ++ v') := by
  obtain ⟨i, rfl, hi⟩ := h
  obtain ⟨j, rfl, hj⟩ := h'
  refine ⟨i.append j, i.spelling_append j, fun s => ?_⟩
  obtain ⟨calls, s', hi⟩ := hi s
  obtain ⟨calls', s'', hj⟩ := hj s'
  exact ⟨calls ++ calls', s'', by simp [Items.value_append, Rewriter.andThen, hi, hj]⟩

theorem of_clauseFree {t : Text} (h : ClauseFree t) : Means handlers t t := by
  have hspelled : ∃ items : Items, items.spelling = t :=
    Outline.refusal_eq_none_iff.1 (by rw [h.outline_eq])
  obtain ⟨items, rfl⟩ := hspelled
  refine ⟨items, rfl, fun s => ?_⟩
  have hresult : (expand handlers items.spelling s).result = .ok items.spelling := by
    rw [h.expand_eq]
  obtain ⟨items', hspelling, w, hvalue, htext⟩ := expand_ok_iff_value.1 hresult
  obtain rfl := Items.spelling_injective hspelling
  exact ⟨w.calls, w.state, by rw [hvalue, ← htext]⟩

/-- A call means the call of what its arguments mean. -/
theorem callText {name : Text} (hname : ∀ c ∈ name, ScalarCall.isNameChar c = true)
    {args values : List Text}
    (h : Means handlers (Text.join ", ".toList args) (Text.join ", ".toList values)) :
    Means handlers (ScalarCall.callText name args) (ScalarCall.callText name values) := by
  have hopen := (of_clauseFree clauseFree_open).append h
  have hgroup := (of_clauseFree (clauseFree_of_isNameChar hname)).append hopen
  exact hgroup.append (of_clauseFree clauseFree_close)

/-- A clause with a tail that means `v` means what its handler answers to `v`. -/
theorem clause (k : Keyword) {c : Char} (hc : Text.isBlank c = true) {tail v out : Text}
    (h : Means handlers tail v)
    (hanswer : ∀ s, ∃ s', handlers.answer? ⟨k.text, Text.strip v⟩ s = some (out, s')) :
    Means handlers ('\x7b' :: (k.text ++ c :: (tail ++ ['\x7d']))) out := by
  obtain ⟨items, rfl, hvalue⟩ := h
  -- The body is written back by the inner items before the handler of `k` is asked.
  refine ⟨.clause k c hc items .nil, rfl, fun s => ?_⟩
  obtain ⟨calls, s', hvalue⟩ := hvalue s
  obtain ⟨s'', hanswer⟩ := hanswer s'
  rw [← Text.strip_cons hc] at hanswer
  exact ⟨calls ++ [⟨k.text, Text.strip (c :: v)⟩], s'', by
    simp [Items.value, Rewriter.andThen, Rewriter.answer, Rewriter.write, hvalue, hanswer]⟩

end Means

def functionKeyword : Keyword := ⟨"fn".toList, by decide, List.all_eq_true.1 (by decide)⟩

theorem answer?_standard_function {σ : Type} (args : Text) (s : σ) :
    Registry.standard.answer? ⟨functionKeyword.text, args⟩ s = some (sqliteCall args, s) := by
  rfl

mutual

theorem CallTree.means {σ : Type} :
    ∀ e : CallTree, Means (Registry.standard : Registry σ) e.spelling e.value
  | .leaf t ht => .of_clauseFree ht.clauseFree
  | .call f args => by
    have htail : Means (Registry.standard : Registry σ) (callText f.text args.spellings)
        (callText f.text args.values) := Means.callText f.all_isNameChar args.means
    -- When the clause closes, its tail is a call of operands.
    have hcall := isOperand_callText f.all_isNameChar f.text_ne_nil args.isOperand_values
    have hanswer : ∀ s : σ, ∃ s', Registry.standard.answer?
        ⟨functionKeyword.text, Text.strip (callText f.text args.values)⟩ s =
          some (f.apply args.values, s') := by
      intro s
      rw [hcall.strip_eq, answer?_standard_function,
        f.sqliteCall_callText args.isOperand_values]
      exact ⟨s, rfl⟩
    exact Means.clause functionKeyword (c := ' ') (by decide) htail hanswer

theorem CallTrees.means {σ : Type} :
    ∀ args : CallTrees, Means (Registry.standard : Registry σ)
      (Text.join ", ".toList args.spellings) (Text.join ", ".toList args.values)
  | .last e => by
    rw [CallTrees.spellings, CallTrees.values, Text.join_singleton, Text.join_singleton]
    exact e.means
  | .cons e rest => by
    obtain ⟨t, ts, hts⟩ := List.exists_cons_of_ne_nil rest.spellings_ne_nil
    obtain ⟨v, vs, hvs⟩ := List.exists_cons_of_ne_nil rest.values_ne_nil
    have hrest := rest.means (σ := σ)
    -- Neither list is empty, so both joins put a separator after their first element.
    rw [hts, hvs] at hrest
    rw [CallTrees.spellings, CallTrees.values, hts, hvs, Text.join_cons_cons, Text.join_cons_cons]
    exact (e.means.append (.of_clauseFree clauseFree_separator)).append hrest

end

/-- Nested function clauses are translated from the inside out: every expression is expanded, and
the result is its value, which can be an argument of a further call. -/
theorem expandStandard_spelling (e : CallTree) :
    (expandStandard e.spelling).result = .ok e.value ∧ IsOperand e.value :=
  ⟨e.means.expand_eq (), e.isOperand_value⟩

/-- A renaming in a concatenation, and a quoted comma. -/
example : (expandStandard "\x7bfn Concat(\x7bfn lcase(a)\x7d, 'b, c')\x7d".toList).result =
    .ok "LOWER(a) || 'b, c'".toList := by
  rfl

end EscapeClause
