import EscapeClause.Quote

/-!
# Comma separated fields

`fields` cuts a text at its top-level commas: those outside quoted regions and outside
parentheses. A `Cursor` reads the text one code point at a time and knows whether the place
reached is quoted and how deep in parentheses it is. A quote or parenthesis that is never closed
is closed by the end of the text; a parenthesis that closes nothing is plain text.

`segments` is the cut itself, where nothing is lost (`join_segments`). `fields` trims every
segment and then drops an empty last field and an empty first one; empty fields between two
commas stay.
-/

namespace EscapeClause

/-- What a reader of fields knows about the place it has reached. -/
structure Cursor where
  /-- The quote whose region the place is in. -/
  quote : Option Quote
  /-- The number of parentheses open around the place. -/
  depth : Nat
  deriving DecidableEq, Repr

namespace Cursor

def start : Cursor := ⟨none, 0⟩

/-- The place after one more code point. -/
def step (k : Cursor) (c : Char) : Cursor :=
  match k.quote with
  | some q => if c = q.closer then { k with quote := none } else k
  | none =>
    match Quote.ofOpener? c with
    | some q => { k with quote := some q }
    | none =>
      if c = '(' then { k with depth := k.depth + 1 }
      -- A parenthesis that closes nothing leaves the depth at zero.
      else if c = ')' then { k with depth := k.depth - 1 }
      else k

def run (k : Cursor) (t : Text) : Cursor := t.foldl step k

/-- Whether a code point met at this place separates two fields. -/
def cuts (k : Cursor) (c : Char) : Bool := k.quote.isNone && k.depth == 0 && c == ','

@[simp] theorem run_nil (k : Cursor) : k.run [] = k := rfl

@[simp] theorem run_cons (k : Cursor) (c : Char) (t : Text) : k.run (c :: t) = (k.step c).run t :=
  rfl

theorem run_append (k : Cursor) (s t : Text) : k.run (s ++ t) = (k.run s).run t := by
  simp [run, List.foldl_append]

/-- A place where a comma separates fields is like the start of the text. -/
theorem eq_start_of_cuts {k : Cursor} {c : Char} (h : k.cuts c = true) : k = start := by
  obtain ⟨quote, depth⟩ := k
  cases quote <;> simp_all [cuts, start]

end Cursor

/-- The stretches between top-level commas, for a reader at place `k`. -/
def segmentsFrom (k : Cursor) : Text → List Text
  | [] => [[]]
  | c :: r =>
    if k.cuts c then [] :: segmentsFrom .start r
    else (segmentsFrom (k.step c) r).modifyHead (c :: ·)

def segments (t : Text) : List Text := segmentsFrom .start t

theorem segmentsFrom_ne_nil (k : Cursor) (t : Text) : segmentsFrom k t ≠ [] := by
  cases t with
  | nil => simp [segmentsFrom]
  | cons c r =>
    rw [segmentsFrom]
    split
    · simp
    · intro h
      have := segmentsFrom_ne_nil (k.step c) r
      cases hs : segmentsFrom (k.step c) r <;> simp_all [List.modifyHead]

theorem join_segmentsFrom (k : Cursor) (t : Text) : Text.join [','] (segmentsFrom k t) = t := by
  induction t generalizing k with
  | nil => simp [segmentsFrom]
  | cons c r ih =>
    rw [segmentsFrom]
    split
    -- A comma is put back between an empty segment and the ones after it.
    · next h =>
      have hc : c = ',' := by simp [Cursor.cuts] at h; exact h.2
      have hs := ih .start
      cases hr : segmentsFrom .start r with
      | nil => exact absurd hr (segmentsFrom_ne_nil _ _)
      | cons s ss =>
        rw [hr] at hs
        rw [← hs, hc]
        simp [Text.join, List.intercalate]
    -- Any other code point belongs to the first segment.
    · have hs := ih (k.step c)
      cases hr : segmentsFrom (k.step c) r with
      | nil => exact absurd hr (segmentsFrom_ne_nil _ _)
      | cons s ss =>
        rw [hr] at hs
        cases ss <;> simp_all [Text.join, List.intercalate]

/-- Cutting loses nothing but the commas. -/
theorem join_segments (t : Text) : Text.join [','] (segments t) = t := join_segmentsFrom _ _

def dropEmptyLast (ts : List Text) : List Text :=
  if ts.getLast? = some [] then ts.dropLast else ts

def dropEmptyFirst : List Text → List Text
  | [] :: ts => ts
  | ts => ts

/-- The comma separated fields of a text: every segment trimmed, without an empty last field and
then without an empty first one. -/
def fields (t : Text) : List Text :=
  -- The one field of an empty text is dropped as the last one.
  dropEmptyFirst (dropEmptyLast ((segments t).map Text.strip))

theorem dropEmptyLast_sublist (ts : List Text) : (dropEmptyLast ts).Sublist ts := by
  rw [dropEmptyLast]
  split
  · exact List.dropLast_sublist ts
  · exact List.Sublist.refl ts

theorem dropEmptyFirst_sublist (ts : List Text) : (dropEmptyFirst ts).Sublist ts := by
  unfold dropEmptyFirst
  split
  · exact List.sublist_cons_self _ _
  · exact List.Sublist.refl _

/-- Every field is a trimmed segment. -/
theorem exists_segment_of_mem_fields {t field : Text} (h : field ∈ fields t) :
    ∃ segment ∈ segments t, Text.strip segment = field := by
  have hlast := (dropEmptyFirst_sublist _).subset h
  exact List.mem_map.1 ((dropEmptyLast_sublist _).subset hlast)

/-- Cutting a text into fields and joining them again leaves every class alone that has no white
space, no comma and nothing of the separator. -/
theorem filter_join_fields {p : Char → Bool} {separator : Text}
    (hblank : ∀ c, Text.isBlank c = true → p c = false) (hcomma : p ',' = false)
    (hseparator : separator.filter p = []) (t : Text) :
    (Text.join separator (fields t)).filter p = t.filter p := by
  -- Each pass takes away nothing but empty texts or white space, which the class leaves out.
  have hlast : ∀ ts : List Text,
      (dropEmptyLast ts).flatMap (·.filter p) = ts.flatMap (·.filter p) := by
    intro ts
    rw [dropEmptyLast]
    split
    · next h =>
      obtain ⟨front, rfl⟩ := List.getLast?_eq_some_iff.1 h
      simp
    · rfl
  have hfirst : ∀ ts : List Text,
      (dropEmptyFirst ts).flatMap (·.filter p) = ts.flatMap (·.filter p) := by
    intro ts
    unfold dropEmptyFirst
    split <;> rfl
  have hstrip : ∀ ts : List Text,
      (ts.map Text.strip).flatMap (·.filter p) = ts.flatMap (·.filter p) := by
    intro ts
    induction ts with
    | nil => rfl
    | cons s ts ih => simp [Text.filter_strip hblank, ih]
  calc (Text.join separator (fields t)).filter p
      = (segments t).flatMap (·.filter p) := by
        rw [Text.filter_join hseparator, fields, hfirst, hlast, hstrip]
    _ = (Text.join [','] (segments t)).filter p := by
        rw [Text.filter_join (by simp [hcomma])]
    _ = t.filter p := by rw [join_segments]

end EscapeClause
