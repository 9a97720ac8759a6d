/-!
# White space

The code points that end a keyword, that are trimmed from fields and argument tails, and that may
stand between a function's name and its arguments. The set is wider than `Char.isWhitespace`: it
has the vertical tab, the form feed, the four information separators and the spaces of Unicode, but
not the zero width space or the byte order mark.
-/

namespace EscapeClause.Text

def isBlank (c : Char) : Bool :=
  let n := c.toNat
  (0x09 ≤ n && n ≤ 0x0d) || (0x1c ≤ n && n ≤ 0x20) || n == 0x85 || n == 0xa0 || n == 0x1680 ||
    (0x2000 ≤ n && n ≤ 0x200a) || n == 0x2028 || n == 0x2029 || n == 0x202f || n == 0x205f ||
    n == 0x3000

def blankPoints : List Nat :=
  List.range' 0x09 5 ++ List.range' 0x1c 5 ++ [0x85, 0xa0, 0x1680] ++ List.range' 0x2000 11 ++
    [0x2028, 0x2029, 0x202f, 0x205f, 0x3000]

theorem isBlank_iff {c : Char} : isBlank c = true ↔ c.toNat ∈ blankPoints := by
  simp only [isBlank, blankPoints, List.mem_append, List.mem_range'_1, List.mem_cons,
    List.not_mem_nil, Bool.or_eq_true, Bool.and_eq_true, decide_eq_true_eq, beq_iff_eq, or_false]
  omega

/-- What holds of each of these code points holds of white space. -/
theorem of_isBlank {P : Char → Prop} (h : ∀ n ∈ blankPoints, P (Char.ofNat n)) {c : Char}
    (hc : isBlank c = true) : P c := by
  rw [← Char.ofNat_toNat c]
  exact h _ (isBlank_iff.1 hc)

end EscapeClause.Text
