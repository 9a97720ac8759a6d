import EscapeClause.Console.Line

/-!
# What printing makes of a text

A line that is not laid out shows every code point at its place, but not all of them as they are:
a tab becomes spaces, and five control codes become nothing. `Prints` is that relation between a
text and what stands for it, code point by code point, and

    prints_print : Prints (t ++ ['\n']) (print t)

says that nothing else happens on the way out. A text is therefore printed verbatim exactly when it
has neither tabs nor dropped control codes (`Prints.eq_iff`).
-/

namespace EscapeClause

/-- What a text is cut into has its code points, less those that it is cut at. -/
theorem Text.of_mem_splitWhere {p : Char → Bool} {t part : Text} (h : part ∈ splitWhere p t) :
    ∀ c ∈ part, c ∈ t ∧ p c = false := by
  induction t generalizing part with
  | nil =>
    rw [splitWhere, List.mem_singleton] at h
    simp [h]
  | cons d t ih =>
    -- Splitting the rest gives at least one part, and `d` is put at the front of it.
    obtain ⟨first, rest, hparts⟩ := List.exists_cons_of_ne_nil (splitWhere_ne_nil p t)
    rw [hparts] at ih
    rw [splitWhere, hparts] at h
    intro c hc
    split at h
    · rcases List.mem_cons.1 h with rfl | h
      · cases hc
      · exact (ih h c hc).imp_left (List.mem_cons_of_mem d)
    · next hd =>
      rw [List.modifyHead_cons] at h
      rcases List.mem_cons.1 h with rfl | h
      · rcases List.mem_cons.1 hc with rfl | hc
        · exact ⟨List.mem_cons_self, by simpa using hd⟩
        · exact (ih List.mem_cons_self c hc).imp_left (List.mem_cons_of_mem d)
      · exact (ih (List.mem_cons_of_mem _ h) c hc).imp_left (List.mem_cons_of_mem d)

namespace Console

/-- Whether printing puts something else in the place of a code point. -/
def isAltered (c : Char) : Bool := c == '\t' || isDropped c

/-- A text of which printing changes nothing. -/
def Verbatim (t : Text) : Prop := ∀ c ∈ t, isAltered c = false

instance (t : Text) : Decidable (Verbatim t) :=
  decidable_of_iff (t.all (fun c => !isAltered c) = true) (by simp [Verbatim])

/-- What is shown in the place of a code point. -/
inductive Shows : Char → Text → Prop
  | itself {c : Char} (h : isAltered c = false) : Shows c [c]
  | dropped {c : Char} (h : isDropped c = true) : Shows c []
  /-- The spaces up to the next tab stop. -/
  | tab {n : Nat} (hpos : 0 < n) (hle : n ≤ tabWidth) : Shows '\t' (List.replicate n ' ')

/-- The second text shows every code point of the first one in its place. -/
inductive Prints : Text → Text → Prop
  | nil : Prints [] []
  | cons {c : Char} {t shown out : Text} (hc : Shows c shown) (ht : Prints t out) :
      Prints (c :: t) (shown ++ out)

/-! ### Laws of the relation -/

theorem Shows.verbatim {c : Char} {shown : Text} (h : Shows c shown) : Verbatim shown := by
  intro d hd
  cases h with
  | itself hc =>
    rw [List.mem_singleton] at hd
    rw [hd, hc]
  | dropped => cases hd
  | tab =>
    rw [List.eq_of_mem_replicate hd]
    rfl

namespace Prints

/-- What is printed is not changed by printing it again. -/
theorem verbatim {t out : Text} (h : Prints t out) : Verbatim out := by
  induction h with
  | nil => exact fun c hc => absurd hc List.not_mem_nil
  | cons hc _ ih =>
    intro d hd
    rcases List.mem_append.1 hd with hd | hd
    · exact hc.verbatim d hd
    · exact ih d hd

theorem append {s t a b : Text} (hs : Prints s a) (ht : Prints t b) : Prints (s ++ t) (a ++ b) := by
  induction hs with
  | nil => exact ht
  | cons hc _ ih =>
    rw [List.append_assoc]
    exact .cons hc ih

/-- What is shown for two texts in a row is what is shown for each. -/
theorem exists_of_append {s t out : Text} (h : Prints (s ++ t) out) :
    ∃ a b, out = a ++ b ∧ Prints s a ∧ Prints t b := by
  induction s generalizing out with
  | nil => exact ⟨[], out, rfl, .nil, h⟩
  | cons c s ih =>
    rcases h with _ | ⟨hc, hrest⟩
    obtain ⟨a, b, rfl, hs, ht⟩ := ih hrest
    exact ⟨_ ++ a, b, by rw [List.append_assoc], .cons hc hs, ht⟩

theorem of_verbatim {t : Text} (h : Verbatim t) : Prints t t := by
  induction t with
  | nil => exact .nil
  | cons c t ih =>
    rw [Verbatim, List.forall_mem_cons] at h
    exact .cons (.itself h.1) (ih h.2)

/-- A text that has nothing to change is shown as it is. -/
theorem eq_of_verbatim {t out : Text} (h : Prints t out) (ht : Verbatim t) : out = t := by
  induction h with
  | nil => rfl
  | cons hc _ ih =>
    rw [Verbatim, List.forall_mem_cons] at ht
    rw [ih ht.2]
    rcases hc with _ | hdropped | _
    · rfl
    · simp [isAltered, hdropped] at ht
    · exact absurd ht.1 (by decide)

/-- A text is shown as it is exactly when it has nothing to change. -/
theorem eq_iff {t out : Text} (h : Prints t out) : out = t ↔ Verbatim t := by
  constructor
  · rintro rfl
    exact h.verbatim
  · exact h.eq_of_verbatim

/-- Control codes that are dropped before leave nothing behind. -/
theorem of_clean {t out : Text} (h : Prints (clean t) out) : Prints t out := by
  induction t generalizing out with
  | nil => exact h
  | cons c t ih =>
    rw [clean, List.filter_cons] at h
    split at h
    · rcases h with _ | ⟨hc, ht⟩
      exact .cons hc (ih ht)
    · next hc =>
      have hdropped : isDropped c = true := by simpa using hc
      exact .cons (.dropped hdropped) (ih h)

end Prints

theorem verbatim_append_iff {s t : Text} : Verbatim (s ++ t) ↔ Verbatim s ∧ Verbatim t :=
  List.forall_mem_append

theorem verbatim_unlines_iff {ls : List Text} : Verbatim (unlines ls) ↔ ∀ l ∈ ls, Verbatim l := by
  have hfeed : Verbatim ['\n'] := by decide
  induction ls with
  | nil => exact iff_of_true (by decide) (by simp)
  | cons l ls ih =>
    rw [unlines, List.flatMap_cons, ← unlines, verbatim_append_iff, verbatim_append_iff,
      and_iff_left hfeed, List.forall_mem_cons]
    exact and_congr_right fun _ => ih

/-! ### Lines -/

/-- Each part of a line is shown up to its tab stop, and the last one as it is. -/
theorem prints_joinAtTabStops {parts : List Text} (hne : parts ≠ [])
    (h : ∀ part ∈ parts, Verbatim part) :
    Prints (Text.join ['\t'] parts) (joinAtTabStops parts) := by
  induction parts with
  | nil => exact absurd rfl hne
  | cons part rest ih =>
    rw [List.forall_mem_cons] at h
    have hpart := Prints.of_verbatim h.1
    cases rest with
    | nil =>
      rw [Text.join_singleton]
      exact hpart
    | cons next rest =>
      have hrest := ih (List.cons_ne_nil _ _) h.2
      -- One space for the tab itself and then those up to the tab stop.
      let more := (tabWidth - cellCount (part ++ [' ']) % tabWidth) % tabWidth
      have hspaces : upToTabStop part = part ++ List.replicate (more + 1) ' ' := by
        rw [upToTabStop, List.append_assoc, List.replicate_succ]
        rfl
      have hmore : more + 1 ≤ tabWidth := Nat.mod_lt _ (by decide)
      rw [Text.join_cons_cons, joinAtTabStops, hspaces]
      · apply (hpart.append _).append hrest
        rw [← List.append_nil (List.replicate _ _)]
        exact .cons (.tab (Nat.succ_pos _) hmore) .nil
      · simp

/-- In a line without control codes that are dropped only the tabs are changed. -/
theorem prints_expandTabs {line : Text} (h : ∀ c ∈ line, isDropped c = false) :
    Prints line (expandTabs line) := by
  have hparts : ∀ part ∈ Text.splitAt '\t' line, Verbatim part := by
    intro part hpart c hc
    obtain ⟨hmem, htab⟩ := Text.of_mem_splitWhere hpart c hc
    rw [isAltered, htab, h c hmem]
    rfl
  have hjoined := prints_joinAtTabStops (Text.splitWhere_ne_nil _ _) hparts
  rwa [← Text.splitAt, Text.join_splitAt] at hjoined

theorem prints_unlines {ls : List Text} (hne : ls ≠ [])
    (h : ∀ line ∈ ls, Prints line (expandTabs line)) :
    Prints (Text.join ['\n'] ls ++ ['\n']) (unlines (ls.map expandTabs)) := by
  have hfeed : Prints ['\n'] ['\n'] := .of_verbatim (by decide)
  induction ls with
  | nil => exact absurd rfl hne
  | cons line rest ih =>
    rw [List.forall_mem_cons] at h
    rw [List.map_cons, unlines, List.flatMap_cons, ← unlines]
    -- The last line has its feed from the end of the print, every other from the join.
    cases rest with
    | nil =>
      rw [Text.join_singleton, List.map_nil, unlines, List.flatMap_nil, List.append_nil]
      exact h.1.append hfeed
    | cons next rest =>
      rw [Text.join_cons_cons, List.append_assoc]
      exact (h.1.append hfeed).append (ih (List.cons_ne_nil _ _) h.2)

/-- Printing shows every code point in its place and ends with a line feed. -/
theorem prints_print (t : Text) : Prints (t ++ ['\n']) (print t) := by
  -- `clean` leaves no dropped character for a line to hold.
  have hlines : ∀ line ∈ lines (clean t), Prints line (expandTabs line) := by
    intro line hline
    apply prints_expandTabs
    intro c hc
    have hkept := (List.mem_filter.1 (Text.of_mem_splitWhere hline c hc).1).2
    simpa using hkept
  have hne : lines (clean t) ≠ [] := Text.splitWhere_ne_nil _ _
  have hjoin : Text.join ['\n'] (lines (clean t)) = clean t := Text.join_splitAt _ _
  have hprinted := prints_unlines hne hlines
  rw [hjoin] at hprinted
  apply Prints.of_clean
  rwa [clean, List.filter_append]

theorem prints_flatMap_print (ts : List Text) : Prints (unlines ts) (ts.flatMap print) := by
  induction ts with
  | nil => exact .nil
  | cons t ts ih =>
    rw [unlines, List.flatMap_cons, List.flatMap_cons]
    exact (prints_print t).append ih

end Console

end EscapeClause
