import EscapeClause.Console.Line

/-!
# Styled texts

A text with the stretches of it that styles cover. No style is printed, yet styles show: a text that
is laid out is measured run by run, a run being a stretch in which no style begins or ends, and a
joiner or a selector has no effect across the border of two runs (`Styled.runs`).

The view of a styled text is its `text`. Its lines are the lines of the text (`map_text_lines`), and
replacing its tabs replaces those of the text (`text_expandTabs`).
-/

namespace EscapeClause.Console

/-- A stretch of a text, from the code point at `start` to before the one at `stop`. -/
structure Stretch where
  start : Nat
  stop : Nat
  deriving DecidableEq, Repr

def Stretch.isProper (p : Stretch) : Bool := p.start < p.stop

/-- A text with the stretches that styles cover. -/
structure Styled where
  text : Text
  spans : List Stretch
  deriving DecidableEq, Repr

namespace Styled

def plain (t : Text) : Styled := ⟨t, []⟩

@[simp] theorem text_plain (t : Text) : (plain t).text = t := rfl

/-! ### Parts -/

def take (n : Nat) (s : Styled) : Styled :=
  ⟨s.text.take n, (s.spans.map fun p => ⟨p.start, min p.stop n⟩).filter Stretch.isProper⟩

/-- What follows the first `n` code points. -/
def drop (n : Nat) (s : Styled) : Styled :=
  ⟨s.text.drop n, (s.spans.map fun p => ⟨p.start - n, p.stop - n⟩).filter Stretch.isProper⟩

def append (s t : Styled) : Styled :=
  let n := s.text.length
  ⟨s.text ++ t.text, s.spans ++ t.spans.map fun p => ⟨p.start + n, p.stop + n⟩⟩

def shortenTo (t : Text) (s : Styled) : Styled :=
  let inside := s.spans.filter fun p => p.start < t.length
  ⟨t, inside.map fun p => ⟨p.start, min p.stop t.length⟩⟩

/-- A longer text in place of this one; a style that reaches the end of this one reaches its end. -/
def extendTo (t : Text) (s : Styled) : Styled :=
  ⟨t, s.spans.map fun p => if p.stop = s.text.length then ⟨p.start, t.length⟩ else p⟩

@[simp] theorem text_take (n : Nat) (s : Styled) : (s.take n).text = s.text.take n := rfl

@[simp] theorem text_drop (n : Nat) (s : Styled) : (s.drop n).text = s.text.drop n := rfl

@[simp] theorem text_append (s t : Styled) : (s.append t).text = s.text ++ t.text := rfl

@[simp] theorem text_shortenTo (t : Text) (s : Styled) : (s.shortenTo t).text = t := rfl

@[simp] theorem text_extendTo (t : Text) (s : Styled) : (s.extendTo t).text = t := rfl

/-! ### Cutting -/

/-- The parts with these texts, when `gap` code points stand between each two. -/
def partsFrom (gap : Nat) : List Text → Styled → List Styled
  | [], _ => []
  | part :: rest, s => s.take part.length :: partsFrom gap rest (s.drop (part.length + gap))

/-- The parts with these texts, when `gap` code points stand between each two. Of a text that is cut
only the styles of some code point are kept; one that is not cut keeps all. -/
def cut (gap : Nat) (parts : List Text) (s : Styled) : List Styled :=
  match parts with
  | [_] => [s]
  | _ => partsFrom gap parts s

theorem map_text_partsFrom {separator : Text} {parts : List Text} {s : Styled}
    (h : Text.join separator parts = s.text) :
    (partsFrom separator.length parts s).map text = parts := by
  induction parts generalizing s with
  | nil => rfl
  | cons part rest ih =>
    rw [partsFrom, List.map_cons, text_take]
    cases rest with
    | nil =>
      rw [Text.join_singleton] at h
      rw [← h, List.take_length]
      rfl
    | cons next rest =>
      -- What is dropped for the next part is this part and the separator.
      rw [Text.join_cons_cons, List.append_assoc] at h
      rw [← h, List.take_left, ih]
      rw [text_drop, ← h, ← List.append_assoc, ← List.length_append, List.drop_left]

/-- The parts have the texts that they are said to have. -/
theorem map_text_cut {separator : Text} {parts : List Text} {s : Styled}
    (h : Text.join separator parts = s.text) :
    (s.cut separator.length parts).map text = parts := by
  unfold cut
  split
  · rw [Text.join_singleton] at h
    rw [List.map_singleton, h]
  · exact map_text_partsFrom h

def lines (s : Styled) : List Styled := s.cut 1 (Console.lines s.text)

theorem map_text_lines (s : Styled) : s.lines.map text = Console.lines s.text :=
  map_text_cut (Text.join_splitAt '\n' s.text)

/-! ### Tabs -/

/-- A line with the tab after each of these parts, the last one apart, replaced by spaces. -/
def expandAfter : List Text → Styled → Styled
  | [], s => s
  | [_], s => s
  | part :: rest, s =>
    ((s.take (part.length + 1)).extendTo (upToTabStop part)).append
      (expandAfter rest (s.drop (part.length + 1)))

def expandTabs (line : Styled) : Styled := expandAfter (Text.splitAt '\t' line.text) line

theorem text_expandAfter {parts : List Text} {s : Styled} (h : Text.join ['\t'] parts = s.text) :
    (expandAfter parts s).text = joinAtTabStops parts := by
  fun_induction expandAfter parts s with
  | case1 => rw [← h]; rfl
  | case2 => rw [← h, Text.join_singleton, joinAtTabStops]
  | case3 part rest s hne ih =>
    obtain ⟨next, rest, rfl⟩ := List.exists_cons_of_ne_nil hne
    rw [text_append, text_extendTo, joinAtTabStops, ih]
    · -- The tab itself goes with the part that stands before it.
      rw [Text.join_cons_cons] at h
      have hn : part.length + 1 = (part ++ ['\t']).length := by simp
      rw [text_drop, ← h, hn, List.drop_left]
    · exact hne

/-- Replacing the tabs replaces those of the text. -/
theorem text_expandTabs (line : Styled) : line.expandTabs.text = Console.expandTabs line.text :=
  text_expandAfter (Text.join_splitAt '\t' line.text)

/-! ### Runs -/

/-- A text whose first code point is the one at `index`, cut where `isBorder` holds. -/
def runsFrom (isBorder : Nat → Bool) (index : Nat) : Text → List Text
  | [] => [[]]
  | c :: r =>
    let rest := (runsFrom isBorder (index + 1) r).modifyHead (c :: ·)
    if isBorder index then [] :: rest else rest

/-- The stretches in which no style begins or ends. -/
def runs (s : Styled) : List Text :=
  runsFrom (fun i => s.spans.any fun p => p.start == i || p.stop == i) 0 s.text

end Styled

end EscapeClause.Console
