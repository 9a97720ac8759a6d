import EscapeClause.Console.Cells

/-!
# Graphemes

What a terminal shows as one sign may be several code points: a base, the marks on it, what a
joiner glues to it and a selector that asks for the colourful form of a picture. Such a group is a
`Grapheme`; it is never broken over two lines. `cellCount` measures a text.

A text is read from left to right. What matters of what has been read is a `Reading`: what the next
code point adds (`Reading.added`), whether it starts a grapheme (`Reading.starts`) and what is then
known (`Reading.next`). A text that starts with a joiner is an exception: no grapheme is there yet
for the joiner to extend, and the next code point starts one as if there were no joiner, while the
measure leaves it out.
-/

namespace EscapeClause.Console

/-- The code point that glues the next one to what precedes it. -/
def joiner : Char := '\u200d'

/-- The code point that asks for the colourful form of the picture before it. -/
def selector : Char := '\ufe0f'

/-- What matters of the part of a text that has been read. -/
structure Reading where
  /-- Whether the last code point was a joiner that glues the next one. -/
  glued : Bool
  /-- The latest code point that takes cells, unless a selector has followed it. -/
  base : Option Char

namespace Reading

def start : Reading := ⟨false, none⟩

def added (s : Reading) (c : Char) : Nat :=
  if s.glued then 0
  else if c = selector then (if s.base.any isWidened then 1 else 0)
  else cells c

def next (s : Reading) (c : Char) : Reading :=
  if s.glued then ⟨false, s.base⟩
  else if c = joiner then ⟨true, s.base⟩
  else if c = selector then ⟨false, none⟩
  else if cells c = 0 then ⟨false, s.base⟩
  else ⟨false, some c⟩

/-- Whether the next code point starts a grapheme; if not, it belongs to the one before it. -/
def starts (s : Reading) (c : Char) : Bool := !s.glued && cells c != 0

/-- What is known after the first code point of a text, which starts a grapheme whatever it is; a
joiner glues nothing there. -/
def ofFirst (c : Char) : Reading := ⟨false, if cells c = 0 then none else some c⟩

end Reading

/-! ### Measure -/

def cellCountFrom (s : Reading) : Text → Nat
  | [] => 0
  | c :: r => s.added c + cellCountFrom (s.next c) r

def cellCount (t : Text) : Nat := cellCountFrom .start t

@[simp] theorem cellCount_nil : cellCount [] = 0 := rfl

theorem cellCountFrom_eq_total {s : Reading} {t : Text} (hs : s.glued = false)
    (hj : joiner ∉ t) (hv : selector ∉ t) : cellCountFrom s t = total (t.map cells) := by
  induction t generalizing s with
  | nil => rfl
  | cons c r ih =>
    rw [List.mem_cons, not_or] at hj hv
    have hcj : c ≠ joiner := fun h => hj.1 h.symm
    have hcv : c ≠ selector := fun h => hv.1 h.symm
    -- Nothing is ever glued, so that no code point is measured by what stands before it.
    have hadded : s.added c = cells c := by simp [Reading.added, hs, hcv]
    have hnext : (s.next c).glued = false := by
      simp only [Reading.next, hs, hcj, hcv, if_false, Bool.false_eq_true]
      split <;> rfl
    rw [cellCountFrom, hadded, ih hnext hj.2 hv.2, List.map_cons, total_cons]

/-- Without joiners and selectors every code point counts for itself. -/
theorem cellCount_eq_total {t : Text} (hj : joiner ∉ t) (hv : selector ∉ t) :
    cellCount t = total (t.map cells) :=
  cellCountFrom_eq_total rfl hj hv

/-! ### Groups -/

/-- Code points that are shown as one sign, and the cells that the sign takes. -/
structure Grapheme where
  text : Text
  cells : Nat

/-- The grapheme with one more code point in front, which takes `n` cells. -/
def Grapheme.extend (c : Char) (n : Nat) (g : Grapheme) : Grapheme := ⟨c :: g.text, n + g.cells⟩

/-- The graphemes of the rest of a text; the first one of them is what still belongs to the grapheme
being read. -/
def graphemesFrom (s : Reading) : Text → List Grapheme
  | [] => [⟨[], 0⟩]
  | c :: r =>
    let rest := (graphemesFrom (s.next c) r).modifyHead (Grapheme.extend c (s.added c))
    if s.starts c then ⟨[], 0⟩ :: rest else rest

def graphemes : Text → List Grapheme
  | [] => []
  | c :: r => (graphemesFrom (.ofFirst c) r).modifyHead (Grapheme.extend c (cells c))

end EscapeClause.Console
