import EscapeClause.CommandLine
import EscapeClause.Proofs.Trimming

/-!
# How printed lines start

What a run writes starts with a label that tells what kind of ending it is. Printing, wrapping and
collapsing white space could each change the start of a text; here it is shown that none of them
changes a label. A label has visible ASCII code points and spaces only (`IsLabel`), so none is
dropped, none ends a line or is a tab, and each takes one cell.
-/

namespace EscapeClause

/-! ### Cutting at a class -/

namespace Text

/-- What stands before a text and has nothing of the class goes to the first part. -/
theorem splitWhere_append {p : Char → Bool} {s : Text} (hs : ∀ c ∈ s, p c = false) (t : Text) :
    splitWhere p (s ++ t) = (splitWhere p t).modifyHead (s ++ ·) := by
  induction s with
  | nil =>
    rw [List.nil_append]
    cases splitWhere p t <;> rfl
  | cons c r ih =>
    rw [List.forall_mem_cons] at hs
    rw [List.cons_append, splitWhere, hs.1, ih hs.2]
    cases splitWhere p t <;> rfl

theorem exists_splitWhere_append {p : Char → Bool} {s : Text} (hs : ∀ c ∈ s, p c = false)
    (t : Text) : ∃ first rest, splitWhere p (s ++ t) = (s ++ first) :: rest := by
  obtain ⟨first, rest, h⟩ := List.exists_cons_of_ne_nil (splitWhere_ne_nil p t)
  exact ⟨first, rest, by rw [splitWhere_append hs, h, List.modifyHead_cons]⟩

/-- A word at the start, up to white space. -/
theorem words_append_blank {s : Text} (hne : s ≠ []) (hs : ∀ c ∈ s, isBlank c = false) {c : Char}
    (hc : isBlank c = true) (t : Text) : words (s ++ c :: t) = s :: words t := by
  rw [words, splitWhere_append hs, splitWhere, if_pos hc, List.modifyHead_cons, List.append_nil,
    List.filter_cons_of_pos (by simpa using hne), words]

/-- What the first word starts with. -/
theorem exists_words_append {s : Text} (hne : s ≠ []) (hs : ∀ c ∈ s, isBlank c = false)
    (t : Text) : ∃ first rest, words (s ++ t) = (s ++ first) :: rest := by
  obtain ⟨first, rest, h⟩ := exists_splitWhere_append hs t
  refine ⟨first, rest.filter fun word => !word.isEmpty, ?_⟩
  rw [words, h, List.filter_cons_of_pos]
  simp [hne]

end Text

namespace Console

/-! ### Labels -/

/-- A visible code point of ASCII, or the space. -/
def isVisible (c : Char) : Bool := 0x20 ≤ c.toNat && c.toNat < 0x7f

def IsLabel (t : Text) : Prop := ∀ c ∈ t, isVisible c = true

instance (t : Text) : Decidable (IsLabel t) := decidable_of_iff _ List.all_eq_true

theorem cells_of_isVisible {c : Char} (hc : isVisible c = true) : cells c = 1 :=
  cells_eq_one (.inl (by simpa [isVisible] using hc))

/-- No control code is visible. -/
theorem ne_of_isVisible {c d : Char} (hc : isVisible c = true) (hd : isVisible d = false) :
    c ≠ d := by
  rintro rfl
  rw [hc] at hd
  cases hd

theorem isDropped_of_isVisible {c : Char} (hc : isVisible c = true) : isDropped c = false := by
  have ne : ∀ d, isVisible d = false → (c == d) = false := fun d hd =>
    beq_false_of_ne (ne_of_isVisible hc hd)
  rw [isDropped, ne _ rfl, ne _ rfl, ne _ rfl, ne _ rfl, ne _ rfl]
  rfl

namespace IsLabel

variable {label : Text}

/-- Code points that are not visible cut no label. -/
theorem splitAt_append (h : IsLabel label) {separator : Char} (hd : isVisible separator = false)
    (t : Text) : ∃ first rest, Text.splitAt separator (label ++ t) = (label ++ first) :: rest :=
  Text.exists_splitWhere_append
    (fun c hc => beq_false_of_ne (ne_of_isVisible (h c hc) hd)) t

theorem clean_append (h : IsLabel label) (t : Text) : clean (label ++ t) = label ++ clean t := by
  rw [clean, List.filter_append, clean, List.filter_eq_self.2]
  intro c hc
  rw [isDropped_of_isVisible (h c hc)]
  rfl

theorem isPrefix_expandTabs (h : IsLabel label) (t : Text) :
    label <+: expandTabs (label ++ t) := by
  have htab : isVisible '\t' = false := rfl
  -- A label holds no tab, so the first stretch between tabs begins with it whole.
  obtain ⟨first, rest, hparts⟩ := h.splitAt_append htab t
  rw [expandTabs, hparts]
  cases rest with
  | nil => exact List.prefix_append label first
  | cons next rest =>
    have hcut : label <+: upToTabStop (label ++ first) := by
      rw [upToTabStop, List.append_assoc, List.append_assoc]
      exact List.prefix_append label _
    exact hcut.trans (List.prefix_append _ _)

/-- A text starts in print with the label that it starts with. -/
theorem isPrefix_print (h : IsLabel label) (t : Text) : label <+: print (label ++ t) := by
  have hfeed : isVisible '\n' = false := rfl
  obtain ⟨first, rest, hlines⟩ := h.splitAt_append hfeed (clean t)
  rw [print, h.clean_append, lines, hlines, List.map_cons, unlines, List.flatMap_cons,
    List.append_assoc]
  exact (h.isPrefix_expandTabs first).trans (List.prefix_append _ _)

end IsLabel

/-! ### Wrapped lines -/

namespace Filling

def first (f : Filling) : Text := f.finished.getLast?.getD f.current

theorem head?_all (f : Filling) : f.all.head? = some f.first := by
  rw [all, List.head?_reverse, List.getLast?_cons, first]

/-- A new line leaves the first one as it is, unless that is still empty. -/
theorem first_startLine {f : Filling} (h : f.first ≠ []) (t : Text) :
    (f.startLine t).first = f.first := by
  -- `first` reads the last finished line, or the current one when nothing is finished yet.
  cases hlast : f.finished.getLast? with
  | none =>
    obtain hnil := List.getLast?_eq_none_iff.1 hlast
    have hcurrent : f.current ≠ [] := by simpa [first, hnil] using h
    simp [startLine, first, hcurrent, hnil]
  | some line =>
    have hcons : (f.current :: f.finished).getLast? = some line := by
      rw [List.getLast?_cons, hlast, Option.getD_some]
    rw [startLine, first, first, hlast, Option.getD_some]
    split
    · rw [hlast, Option.getD_some]
    · rw [hcons, Option.getD_some]

theorem first_foldl_startLine {f : Filling} (h : f.first ≠ []) (lines : List Text) :
    (lines.foldl startLine f).first = f.first := by
  induction lines generalizing f with
  | nil => rfl
  | cons line rest ih =>
    have hline := first_startLine h line
    rw [List.foldl_cons, ih (by rw [hline]; exact h), hline]

/-- A further word makes the first line longer or leaves it as it is. -/
theorem isPrefix_first_addWord {f : Filling} (h : f.first ≠ []) (width : Nat) (word : Text) :
    f.first <+: (f.addWord width word).first := by
  rw [addWord]
  split
  · -- The word fits: it lands at the end of the current line, which may be the first one.
    rw [first, first]
    cases f.finished.getLast? with
    | none => exact List.prefix_append f.current word
    | some line => exact List.prefix_rfl
  · -- It does not fit: the lines before it are closed, and the first of them stays as it is.
    split
    · exact (first_foldl_startLine h _).symm ▸ List.prefix_rfl
    · exact (first_startLine h word).symm ▸ List.prefix_rfl

theorem isPrefix_first_foldl_addWord {f : Filling} (h : f.first ≠ []) (width : Nat)
    (words : List Text) : f.first <+: (words.foldl (addWord width) f).first := by
  induction words generalizing f with
  | nil => exact List.prefix_rfl
  | cons word rest ih =>
    have hword := isPrefix_first_addWord h width word
    have hne : (f.addWord width word).first ≠ [] := fun hnil => h (by simpa [hnil] using hword)
    exact hword.trans (ih hne)

end Filling

/-- A word before other text that does not start with white space. -/
theorem wordsFrom_append {word blanks t : Text} (hne : word ≠ [])
    (hword : ∀ c ∈ word, Text.isBlank c = false) (hblanks : ∀ c ∈ blanks, Text.isBlank c = true)
    (hb : blanks ≠ []) (ht : ∀ c ∈ t.head?, Text.isBlank c = false) (lead : Text) :
    wordsFrom lead (word ++ (blanks ++ t)) = (lead ++ word ++ blanks) :: wordsFrom [] t := by
  have hink : ∀ c ∈ word, isInk c = true := fun c hc => by simp [isInk, hword c hc]
  have hstop : ∀ c ∈ (blanks ++ t).head?, isInk c = false := by
    obtain ⟨b, bs, rfl⟩ := List.exists_cons_of_ne_nil hb
    rintro c ⟨⟩
    simp [isInk, hblanks b List.mem_cons_self]
  -- One round of `wordsFrom` takes the ink, then the blanks after it, and goes on with `t`.
  rw [wordsFrom]
  simp only [Text.takeWhile_append_of_head? hink hstop, dif_neg hne,
    Text.dropWhile_append_of_head? hink hstop, Text.takeWhile_append_of_head? hblanks ht,
    Text.dropWhile_append_of_head? hblanks ht]

theorem words_of_not_blank {t : Text} (ht : ∀ c ∈ t.head?, Text.isBlank c = false) :
    words t = wordsFrom [] t := by
  cases t with
  | nil => rfl
  | cons c r =>
    have hc : ¬ Text.isBlank c = true := by simp [ht c rfl]
    rw [words, List.takeWhile_cons_of_neg hc, List.dropWhile_cons_of_neg hc]

theorem IsLabel.cellCount_eq {t : Text} (h : IsLabel t) : cellCount t = t.length := by
  have hjoiner : joiner ∉ t := fun hmem => ne_of_isVisible (h _ hmem) (by decide) rfl
  have hselector : selector ∉ t := fun hmem => ne_of_isVisible (h _ hmem) (by decide) rfl
  rw [cellCount_eq_total hjoiner hselector]
  clear hjoiner hselector
  induction t with
  | nil => rfl
  | cons c r ih =>
    rw [IsLabel, List.forall_mem_cons] at h
    rw [List.map_cons, total_cons, cells_of_isVisible h.1, ih h.2, List.length_cons, Nat.add_comm]

structure IsWord (word : Text) : Prop where
  ne_nil : word ≠ []
  isLabel : IsLabel word
  not_blank : ∀ c ∈ word, Text.isBlank c = false

instance (word : Text) : Decidable (IsWord word) :=
  decidable_of_iff (word ≠ [] ∧ IsLabel word ∧ (word.all fun c => !Text.isBlank c) = true)
    ⟨fun ⟨hne, hlabel, hword⟩ => ⟨hne, hlabel, by simpa using hword⟩,
      fun h => ⟨h.ne_nil, h.isLabel, by simpa using h.not_blank⟩⟩

theorem IsWord.isBlank_of_mem_head? {word : Text} (h : IsWord word) (t : Text) :
    ∀ c ∈ (word ++ t).head?, Text.isBlank c = false := by
  obtain ⟨c, r, rfl⟩ := List.exists_cons_of_ne_nil h.ne_nil
  rintro d ⟨⟩
  exact h.not_blank c List.mem_cons_self

/-- The measure of a word leaves out the white space after it. -/
theorem IsWord.cellCount_stripEnd {word blanks : Text} (h : IsWord word)
    (hblanks : ∀ c ∈ blanks, Text.isBlank c = true) :
    cellCount (Text.stripEnd (word ++ blanks)) = word.length := by
  have hword : Text.stripEnd word = word := by
    have hend := Text.dropWhile_append_of_head? (p := Text.isBlank) (s := []) (r := word.reverse)
      (by simp) fun c hc => h.not_blank c (List.mem_reverse.1 (List.mem_of_head? hc))
    rw [List.nil_append] at hend
    rw [Text.stripEnd, hend, List.reverse_reverse]
  rw [Text.stripEnd_append hblanks, hword, h.isLabel.cellCount_eq]

section TwoWords

variable {a b : Text} (ha : IsWord a) (hb : IsWord b) {width : Nat}
  (hwidth : a.length + 1 + b.length ≤ width)

include ha hb hwidth

/-- Two words that fit start the first line. -/
theorem exists_breakLine (t : Text) :
    ∃ first rest, breakLine width (a ++ ' ' :: (b ++ ' ' :: t)) = first :: rest ∧
      a ++ ' ' :: (b ++ [' ']) <+: first := by
  have hspace : Text.isBlank ' ' = true := rfl
  have hspaces : ∀ c ∈ [' '], Text.isBlank c = true := List.forall_mem_singleton.2 hspace
  -- The second word takes all the white space after it.
  let blanks := ' ' :: t.takeWhile Text.isBlank
  let more := t.dropWhile Text.isBlank
  have hblanks : ∀ c ∈ blanks, Text.isBlank c = true :=
    List.forall_mem_cons.2 ⟨hspace, fun c hc => List.mem_takeWhile_imp hc⟩
  have hwords : words (a ++ ' ' :: (b ++ ' ' :: t)) =
      (a ++ [' ']) :: (b ++ blanks) :: wordsFrom [] more := by
    have htext : b ++ ' ' :: t = b ++ (blanks ++ more) := by
      rw [List.cons_append, List.takeWhile_append_dropWhile]
    have hmore : ∀ c ∈ more.head?, Text.isBlank c = false :=
      Text.isBlank_of_mem_head?_stripStart
    have hone := wordsFrom_append ha.ne_nil ha.not_blank hspaces (List.cons_ne_nil _ _)
      (hb.isBlank_of_mem_head? (' ' :: t)) []
    have htwo := wordsFrom_append hb.ne_nil hb.not_blank hblanks (List.cons_ne_nil _ _) hmore []
    rw [← htext] at htwo
    rw [htwo] at hone
    rw [words_of_not_blank (ha.isBlank_of_mem_head? _)]
    exact hone
  have hfirst : Filling.addWord width ⟨[], [], 0⟩ (a ++ [' ']) =
      ⟨[], a ++ [' '], a.length + 1⟩ := by
    have hlabel : IsLabel (a ++ [' ']) :=
      List.forall_mem_append.2 ⟨ha.isLabel, List.forall_mem_singleton.2 rfl⟩
    have hfits : 0 + a.length ≤ width := by omega
    rw [Filling.addWord, ha.cellCount_stripEnd hspaces, if_pos hfits, hlabel.cellCount_eq]
    simp
  have hsecond : (Filling.addWord width ⟨[], a ++ [' '], a.length + 1⟩ (b ++ blanks)).first =
      a ++ [' '] ++ (b ++ blanks) := by
    rw [Filling.addWord, hb.cellCount_stripEnd hblanks, if_pos hwidth]
    rfl
  have hne : (Filling.addWord width ⟨[], a ++ [' '], a.length + 1⟩ (b ++ blanks)).first ≠ [] := by
    rw [hsecond]
    simp
  have hgrows := Filling.isPrefix_first_foldl_addWord hne width (wordsFrom [] more)
  rw [hsecond] at hgrows
  have hlabel : a ++ ' ' :: (b ++ [' ']) <+: a ++ [' '] ++ (b ++ blanks) := by
    have hspelled : a ++ [' '] ++ (b ++ blanks) =
        a ++ ' ' :: (b ++ [' ']) ++ t.takeWhile Text.isBlank := by simp [blanks]
    rw [hspelled]
    exact List.prefix_append _ _
  rw [breakLine, hwords]
  simp only [List.foldl_cons, hfirst]
  obtain ⟨rest, hall⟩ := List.head?_eq_some_iff.1 (Filling.head?_all _)
  exact ⟨_, rest, hall, hlabel.trans hgrows⟩

end TwoWords

/-! ### The start of a line -/

theorem isPrefix_dropExcess {start line : Text} {width : Nat} (h : start <+: line)
    (hwidth : start.length ≤ width) : start <+: dropExcess width line := by
  have hlength := h.length_le
  refine List.prefix_take_iff.2 ⟨h, ?_⟩
  omega

/-- A code point that takes cells starts a grapheme. -/
theorem graphemes_cons_cons {c d : Char} (hd : cells d ≠ 0) (r : Text) :
    graphemes (c :: d :: r) = ⟨[c], cells c⟩ :: graphemes (d :: r) := by
  -- Only a mark of no width can join what stands before it, and `d` is none.
  have hjoiner : d ≠ joiner := by
    rintro rfl
    exact hd (by decide)
  have hselector : d ≠ selector := by
    rintro rfl
    exact hd (by decide)
  have hstarts : (Reading.ofFirst c).starts d = true := by
    simp [Reading.starts, Reading.ofFirst, hd]
  have hadded : (Reading.ofFirst c).added d = cells d := by
    simp [Reading.added, Reading.ofFirst, hselector]
  have hnext : (Reading.ofFirst c).next d = .ofFirst d := by
    simp [Reading.next, Reading.ofFirst, hjoiner, hselector, hd]
  rw [graphemes, graphemesFrom, hadded, hnext, if_pos hstarts, List.modifyHead_cons, graphemes]
  rfl

/-- What comes before a code point that takes cells is not changed by fitting. -/
theorem isPrefix_fitting {label : Text} (h : IsLabel label) {width : Nat}
    (hwidth : label.length ≤ width) {d : Char} (hd : cells d ≠ 0) (t : Text) :
    label <+: fitting width (graphemes (label ++ d :: t)) := by
  -- One visible character is one cell: each step spends one cell of the width on it.
  induction label generalizing width with
  | nil => exact List.nil_prefix
  | cons c r ih =>
    rw [IsLabel, List.forall_mem_cons] at h
    rw [List.length_cons] at hwidth
    have hc := cells_of_isVisible h.1
    have hsplit : graphemes (c :: (r ++ d :: t)) = ⟨[c], 1⟩ :: graphemes (r ++ d :: t) := by
      rw [← hc]
      cases r with
      | nil => exact graphemes_cons_cons hd t
      | cons e r =>
        have he := cells_of_isVisible (h.2 e List.mem_cons_self)
        exact graphemes_cons_cons (by rw [he]; exact Nat.one_ne_zero) _
    have hfits : 1 ≤ width := by omega
    rw [List.cons_append, hsplit, fitting, if_pos hfits]
    exact (List.prefix_cons_inj c).2 (ih h.2 (Nat.le_sub_of_add_le hwidth))

theorem isPrefix_truncate {label line : Text} (h : IsLabel label) {width : Nat}
    (hwidth : label.length ≤ width) {d : Char} (hd : cells d ≠ 0)
    (hline : label ++ [d] <+: line) : label <+: truncate width line := by
  obtain ⟨t, rfl⟩ := hline
  rw [truncate]
  split
  · rw [List.append_assoc]
    exact List.prefix_append label _
  · rw [List.append_assoc]
    exact isPrefix_fitting h hwidth hd t

/-! ### The first line -/

/-- The first of the parts that a line is cut into starts like the line. -/
theorem Styled.exists_cut {label first : Text} {line : Styled} (hline : label <+: line.text)
    (hfirst : label <+: first) (rest : List Text) :
    ∃ part parts, line.cut 0 (first :: rest) = part :: parts ∧ label <+: part.text := by
  cases rest with
  | nil => exact ⟨line, [], rfl, hline⟩
  | cons next rest =>
    exact ⟨line.take first.length, _, rfl, List.prefix_take_iff.2 ⟨hline, hfirst.length_le⟩⟩

/-- Two words, and a space after them. -/
theorem IsWord.isLabel_two {a b : Text} (ha : IsWord a) (hb : IsWord b) :
    IsLabel (a ++ ' ' :: b ++ [' ']) := by
  have hspace : IsLabel [' '] := List.forall_mem_singleton.2 rfl
  exact List.forall_mem_append.2
    ⟨List.forall_mem_append.2 ⟨ha.isLabel, List.forall_mem_append.2 ⟨hspace, hb.isLabel⟩⟩, hspace⟩

section Wrap

variable {a b : Text} (ha : IsWord a) (hb : IsWord b) {width : Nat}
  (hwidth : a.length + 1 + b.length < width)

include ha hb hwidth

theorem exists_wrapLine {line : Styled} (hline : a ++ ' ' :: b ++ [' '] <+: line.text) :
    ∃ first rest, line.wrapLine width = first :: rest ∧ a ++ ' ' :: b <+: first.text := by
  have hlabel := ha.isLabel_two hb
  -- The label is followed through the four passes over a line: tabs, breaks, excess, shortening.
  have hexpanded : a ++ ' ' :: b ++ [' '] <+: line.expandTabs.text := by
    obtain ⟨t, ht⟩ := hline
    rw [Styled.text_expandTabs, ← ht]
    exact hlabel.isPrefix_expandTabs t
  obtain ⟨first, rest, hbreak, hfirst⟩ : ∃ first rest,
      breakLine width line.expandTabs.text = first :: rest ∧ a ++ ' ' :: b ++ [' '] <+: first := by
    obtain ⟨t, ht⟩ := hexpanded
    obtain ⟨first, rest, hbreak, hfirst⟩ := exists_breakLine ha hb (Nat.le_of_lt hwidth) t
    refine ⟨first, rest, ?_, by simpa using hfirst⟩
    rw [← ht, ← hbreak]
    simp
  obtain ⟨part, parts, hcut, hpart⟩ := Styled.exists_cut hexpanded hfirst rest
  have hfits : (a ++ ' ' :: b ++ [' ']).length ≤ width := by simp; omega
  have hkept := isPrefix_dropExcess hpart hfits
  refine ⟨_, _, by rw [Styled.wrapLine, hbreak, hcut, List.map_cons], ?_⟩
  rw [Styled.text_shortenTo]
  refine isPrefix_truncate (fun c hc => hlabel c (List.mem_append_left _ hc)) ?_ (d := ' ') ?_ hkept
  · simp; omega
  · decide

/-- A text that starts with two words that fit is wrapped to lines the first of which starts with
them. -/
theorem exists_wrap (t : Text) :
    ∃ first rest, wrap width (a ++ ' ' :: b ++ [' '] ++ t) = first :: rest ∧
      a ++ ' ' :: b <+: first := by
  have hfeed : isVisible '\n' = false := rfl
  obtain ⟨first, rest, hlines⟩ := (ha.isLabel_two hb).splitAt_append hfeed t
  -- The styles are cut with the text: the first styled line spells the first line.
  have htexts := Styled.map_text_lines (.plain (a ++ ' ' :: b ++ [' '] ++ t))
  rw [Styled.text_plain, lines, hlines] at htexts
  obtain ⟨line, more, hlines', htext, -⟩ := List.map_eq_cons_iff.1 htexts
  have hline : a ++ ' ' :: b ++ [' '] <+: line.text := ⟨first, htext.symm⟩
  obtain ⟨start, others, hwrap, hstart⟩ := exists_wrapLine ha hb hwidth hline
  let following := others ++ more.flatMap (Styled.wrapLine width)
  refine ⟨start.text, following.map Styled.text, ?_, hstart⟩
  rw [wrap, Styled.wrap, hlines', List.flatMap_cons, hwrap, List.cons_append, List.map_cons]

end Wrap

/-- A panel starts with its corner. -/
theorem exists_panel (available : Nat) (title : Option Text) (body : Styled) :
    ∃ top rest, panel available title body = ('╭' :: top) :: rest := by
  unfold panel
  cases title with
  | none => exact ⟨_, _, rfl⟩
  | some title =>
    by_cases h : innerWidth available (some title) body.text ≤ 2
    · simp only [if_pos h]
      exact ⟨_, _, rfl⟩
    · simp only [if_neg h]
      exact ⟨_, _, rfl⟩

end Console

namespace CommandLine

open Console

/-- Collapsed white space leaves the two words at the start. -/
theorem isPrefix_collapse {a b : Text} (ha : IsWord a) (hb : IsWord b) {t : Text}
    (h : a ++ ' ' :: b <+: t) : a ++ ' ' :: b <+: collapse t := by
  obtain ⟨more, rfl⟩ := h
  obtain ⟨first, rest, hwords⟩ := Text.exists_words_append hb.ne_nil hb.not_blank more
  have hspace : Text.isBlank ' ' = true := rfl
  -- The words of `t` begin with `a` and a word that begins with `b`, so one space joins them.
  rw [collapse, List.append_assoc, List.cons_append,
    Text.words_append_blank ha.ne_nil ha.not_blank hspace, hwords, Text.join_cons_cons,
    List.append_assoc]
  refine (List.prefix_append_right_inj a).2 ((List.prefix_cons_inj ' ').2 ?_)
  cases rest with
  | nil =>
    rw [Text.join_singleton]
    exact List.prefix_append b first
  | cons next rest =>
    rw [Text.join_cons_cons, List.append_assoc, List.append_assoc]
    exact List.prefix_append b _

/-- A refused handlers file is reported as an error of the configuration. -/
theorem isPrefix_configurationEnding (message : Text) :
    "Configuration error:".toList <+: (configurationEnding message).output := by
  have ha : IsWord "Configuration".toList := by decide
  have hb : IsWord "error:".toList := by decide
  have hlabel : "Configuration error: ".toList =
      "Configuration".toList ++ ' ' :: "error:".toList ++ [' '] := rfl
  have hwidth : "Configuration".toList.length + 1 + "error:".toList.length < terminalWidth := by
    decide
  -- The label is far narrower than a line of the terminal, so no break falls inside it.
  obtain ⟨first, rest, hwrap, hfirst⟩ := exists_wrap ha hb hwidth
    (clean (Markup.render (Markup.escape message)))
  have hlines : "Configuration".toList ++ ' ' :: "error:".toList <+: unlines (first :: rest) := by
    rw [unlines, List.flatMap_cons, List.append_assoc]
    exact hfirst.trans (List.prefix_append _ _)
  have hclean := (ha.isLabel_two hb).clean_append (Markup.render (Markup.escape message))
  rw [configurationEnding, hlabel]
  simp only
  rw [hclean, hwrap]
  exact (isPrefix_collapse ha hb hlines).trans (List.prefix_append _ _)

end CommandLine

end EscapeClause
