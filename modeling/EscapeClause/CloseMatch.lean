import EscapeClause.Text.Basic

/-!
# Close matches

How alike two texts are: the longest stretch that both have is matched, and then what stands
before it and what stands after it in both. The likeness is the share of matched code points in
both texts together. `closeMatches` are the candidates that are at least six tenths alike, at most
three, the most alike first.
-/

namespace EscapeClause.CloseMatch

def commonStart : Text → Text → Nat
  | a :: s, b :: t => if a = b then commonStart s t + 1 else 0
  | _, _ => 0

/-- A stretch that two texts share: where it starts in each of them, and its length. -/
structure Block where
  left : Nat
  right : Nat
  length : Nat

def longestBlock (s t : Text) : Block :=
  (List.range s.length).foldl (fun best i =>
    (List.range t.length).foldl (fun best j =>
      let n := commonStart (s.drop i) (t.drop j)
      -- Only a longer stretch takes the place of the best one so far.
      if n > best.length then ⟨i, j, n⟩ else best) best) ⟨0, 0, 0⟩

/-- The number of code points matched in two texts. The first argument bounds how often the texts
are cut; the length of one of them is enough. -/
def matched : Nat → Text → Text → Nat
  | 0, _, _ => 0
  | fuel + 1, s, t =>
    let block := longestBlock s t
    if block.length = 0 then 0
    else
      block.length + matched fuel (s.take block.left) (t.take block.right) +
        matched fuel (s.drop (block.left + block.length)) (t.drop (block.right + block.length))

/-- Whether two texts of these lengths together are alike enough with this many code points
matched. -/
def isClose (matchedCount total : Nat) : Bool := 6 * total ≤ 20 * matchedCount

/-- The candidates that are most like a text, the most alike first and the greater text first
among equals. -/
def closeMatches (t : Text) (candidates : List Text) : List Text :=
  let rated := candidates.filterMap fun c =>
    let m := matched (c.length + 1) c t
    if isClose m (c.length + t.length) then some (m, c) else none
  let before (a b : Nat × Text) : Bool :=
    -- Ratios are compared by their cross products.
    let left := a.1 * (b.2.length + t.length)
    let right := b.1 * (a.2.length + t.length)
    if left = right then Text.le b.2 a.2 else right < left
  ((rated.mergeSort before).take 3).map Prod.snd

end EscapeClause.CloseMatch
