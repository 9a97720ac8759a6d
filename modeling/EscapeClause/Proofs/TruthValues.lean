import EscapeClause.Flag
import EscapeClause.Proofs.Rounding

/-!
# Which values are truth values

`IsFlag` lists the values that are truth values, and `IsNoFlag` the others with the reason why they
are none. Together they are what reading a value comes to (`flagOfJson_eq_ok_iff`,
`flagOfJson_eq_error_iff`). A decimal counts by the integer that it is rounded to, so that it has
the truth values of that integer, or the reason of it.
-/

namespace EscapeClause

def flagWords : Bool → List Text
  | false => ["0", "off", "f", "false", "n", "no"].map String.toList
  | true => ["1", "on", "t", "true", "y", "yes"].map String.toList

def flagNumber : Bool → Int
  | false => 0
  | true => 1

inductive IsFlag : Json → Bool → Prop
  | bool (flag : Bool) : IsFlag (.bool flag) flag
  | integer (flag : Bool) : IsFlag (.integer (flagNumber flag)) flag
  | decimal {d : Decimal} {flag : Bool} (h : RoundsTo d.value (flagNumber flag)) :
      IsFlag (.decimal d) flag
  | word {t : Text} {flag : Bool} (h : Text.lowerAscii t ∈ flagWords flag) :
      IsFlag (.string (Decoded.ofText t)) flag

/-- The number of no truth value. -/
def IsOtherNumber (n : Int) : Prop := ∀ flag, n ≠ flagNumber flag

/-- A value that is no truth value, and the reason. -/
inductive IsNoFlag : Json → FlagError → Prop
  | word {t : Text} (h : ∀ flag, Text.lowerAscii t ∉ flagWords flag) :
      IsNoFlag (.string (Decoded.ofText t)) .unreadable
  | string {s : Decoded} (h : ∀ t, s ≠ Decoded.ofText t) : IsNoFlag (.string s) .notText
  | integer {n : Int} (h : IsOtherNumber n) (hle : -2 ^ 63 ≤ n) (hlt : n < 2 ^ 63) :
      IsNoFlag (.integer n) .unreadable
  | longInteger {n : Int} (h : n < -2 ^ 63 ∨ 2 ^ 63 ≤ n) : IsNoFlag (.integer n) .wrongKind
  /-- Both ends of 64 bits are out of reach. -/
  | decimal {d : Decimal} {n : Int} (hd : RoundsTo d.value n) (h : IsOtherNumber n)
      (hgt : -2 ^ 63 < n) (hlt : n < 2 ^ 63) : IsNoFlag (.decimal d) .unreadable
  | otherDecimal {d : Decimal}
      (h : ∀ n : Int, RoundsTo d.value n → n ≤ -2 ^ 63 ∨ 2 ^ 63 ≤ n) :
      IsNoFlag (.decimal d) .wrongKind
  | null : IsNoFlag .null .wrongKind
  | nonFinite : IsNoFlag .nonFinite .wrongKind
  | array (items : List Json) : IsNoFlag (.array items) .wrongKind
  | object (members : List (Decoded × Json)) : IsNoFlag (.object members) .wrongKind

/-! ### Texts and numbers -/

theorem flagWords_disjoint : ∀ w ∈ flagWords true, w ∉ flagWords false := by decide

theorem flagOfText_of_mem {t : Text} {flag : Bool} (h : Text.lowerAscii t ∈ flagWords flag) :
    flagOfText t = .ok flag := by
  have hfalse : falseWords = flagWords false := rfl
  have htrue : trueWords = flagWords true := rfl
  simp only [flagOfText, List.contains_iff_mem, hfalse, htrue]
  cases flag with
  | false => rw [if_pos h]
  | true => rw [if_neg (flagWords_disjoint _ h), if_pos h]

theorem flagOfText_of_not_mem {t : Text} (h : ∀ flag, Text.lowerAscii t ∉ flagWords flag) :
    flagOfText t = .error .unreadable := by
  have hfalse : falseWords = flagWords false := rfl
  have htrue : trueWords = flagWords true := rfl
  simp only [flagOfText, List.contains_iff_mem, hfalse, htrue]
  rw [if_neg (h false), if_neg (h true)]

theorem flagOfInteger_flagNumber (least greatest : Int) (flag : Bool) :
    flagOfInteger least greatest (flagNumber flag) = .ok flag := by
  cases flag <;> rfl

theorem flagOfInteger_of_isOtherNumber {n : Int} (h : IsOtherNumber n) (least greatest : Int) :
    flagOfInteger least greatest n =
      .error (if least ≤ n ∧ n ≤ greatest then .unreadable else .wrongKind) := by
  have hzero : n ≠ 0 := h false
  have hone : n ≠ 1 := h true
  rw [flagOfInteger, if_neg hzero, if_neg hone]

theorem isOtherNumber_of_lt {n : Int} (h : n < -1 ∨ 1 < n) : IsOtherNumber n := by
  intro flag
  cases flag <;> simp only [flagNumber] <;> omega

/-! ### Reading a value -/

theorem IsFlag.flagOfJson_eq {value : Json} {flag : Bool} (h : IsFlag value flag) :
    flagOfJson value = .ok flag := by
  cases h with
  | bool => rfl
  | integer => exact flagOfInteger_flagNumber _ _ flag
  | @decimal d _ h =>
    have hinteger : d.integer? = some (flagNumber flag) :=
      (Decimal.integer?_eq_some_iff (by cases flag <;> decide)).2 h
    rw [flagOfJson, hinteger]
    exact flagOfInteger_flagNumber _ _ flag
  | word h =>
    simp only [flagOfJson, Decoded.text?_ofText]
    exact flagOfText_of_mem h

theorem IsNoFlag.flagOfJson_eq {value : Json} {e : FlagError} (h : IsNoFlag value e) :
    flagOfJson value = .error e := by
  cases h with
  | word h =>
    simp only [flagOfJson, Decoded.text?_ofText]
    exact flagOfText_of_not_mem h
  | @string s h =>
    have hnone : s.text? = none :=
      Option.eq_none_iff_forall_not_mem.2 fun t ht => h t (Decoded.text?_eq_some_iff.1 ht)
    simp only [flagOfJson, hnone]
  | integer h hle hlt =>
    rw [flagOfJson, flagOfInteger_of_isOtherNumber h, if_pos (by omega)]
  | longInteger h =>
    rw [flagOfJson, flagOfInteger_of_isOtherNumber (isOtherNumber_of_lt (by omega)),
      if_neg (by omega)]
  | @decimal d n hd h hgt hlt =>
    have hinteger : d.integer? = some n :=
      (Decimal.integer?_eq_some_iff (abs_le.2 (by constructor <;> omega))).2 hd
    rw [flagOfJson, hinteger]
    simp only [flagOfInteger_of_isOtherNumber h]
    rw [if_pos (by omega)]
  | @otherDecimal d h =>
    rw [flagOfJson]
    cases hinteger : d.integer? with
    | none => rfl
    | some n =>
      -- A decimal that is read as a small integer is rounded to it.
      have hlarge : n ≤ -2 ^ 63 ∨ 2 ^ 63 ≤ n := by
        by_contra hsmall
        have hn : |n| ≤ 2 ^ 64 := abs_le.2 (by constructor <;> omega)
        exact hsmall (h n ((Decimal.integer?_eq_some_iff hn).1 hinteger))
      simp only [flagOfInteger_of_isOtherNumber (isOtherNumber_of_lt (by omega : n < -1 ∨ 1 < n))]
      rw [if_neg (by omega)]
  | null | nonFinite | array | object => rfl

/-- Every value is a truth value, or there is a reason why it is none. -/
theorem isFlag_or_isNoFlag (value : Json) :
    (∃ flag, IsFlag value flag) ∨ ∃ e, IsNoFlag value e := by
  -- An integer is the number of a flag or another one.
  have hnumber (n : Int) : (∃ flag, n = flagNumber flag) ∨ IsOtherNumber n := by
    by_cases h : ∃ flag, n = flagNumber flag
    · exact .inl h
    · exact .inr fun flag hflag => h ⟨flag, hflag⟩
  cases value with
  | bool flag => exact .inl ⟨flag, .bool flag⟩
  | integer n =>
    rcases hnumber n with ⟨flag, rfl⟩ | h
    · exact .inl ⟨flag, .integer flag⟩
    · by_cases hword : -2 ^ 63 ≤ n ∧ n < 2 ^ 63
      · exact .inr ⟨_, .integer h hword.1 hword.2⟩
      · exact .inr ⟨_, .longInteger (by omega)⟩
  | decimal d =>
    by_cases h : ∃ n : Int, RoundsTo d.value n ∧ -2 ^ 63 < n ∧ n < 2 ^ 63
    · obtain ⟨n, hd, hgt, hlt⟩ := h
      rcases hnumber n with ⟨flag, rfl⟩ | hn
      · exact .inl ⟨flag, .decimal hd⟩
      · exact .inr ⟨_, .decimal hd hn hgt hlt⟩
    · refine .inr ⟨_, .otherDecimal fun n hd => ?_⟩
      by_contra hsmall
      exact h ⟨n, hd, by omega, by omega⟩
  | string s =>
    cases htext : s.text? with
    | none => exact .inr ⟨_, .string fun t ht => by simp [ht] at htext⟩
    | some t =>
      obtain rfl := Decoded.text?_eq_some_iff.1 htext
      by_cases h : ∃ flag, Text.lowerAscii t ∈ flagWords flag
      · obtain ⟨flag, h⟩ := h
        exact .inl ⟨flag, .word h⟩
      · exact .inr ⟨_, .word fun flag hflag => h ⟨flag, hflag⟩⟩
  | null => exact .inr ⟨_, .null⟩
  | nonFinite => exact .inr ⟨_, .nonFinite⟩
  | array items => exact .inr ⟨_, .array items⟩
  | object members => exact .inr ⟨_, .object members⟩

theorem flagOfJson_eq_ok_iff {value : Json} {flag : Bool} :
    flagOfJson value = .ok flag ↔ IsFlag value flag := by
  refine ⟨fun h => ?_, IsFlag.flagOfJson_eq⟩
  rcases isFlag_or_isNoFlag value with ⟨flag', hflag⟩ | ⟨e, he⟩
  · rw [hflag.flagOfJson_eq, Except.ok.injEq] at h
    exact h ▸ hflag
  · cases he.flagOfJson_eq.symm.trans h

theorem flagOfJson_eq_error_iff {value : Json} {e : FlagError} :
    flagOfJson value = .error e ↔ IsNoFlag value e := by
  refine ⟨fun h => ?_, IsNoFlag.flagOfJson_eq⟩
  rcases isFlag_or_isNoFlag value with ⟨flag, hflag⟩ | ⟨e', he⟩
  · cases hflag.flagOfJson_eq.symm.trans h
  · rw [he.flagOfJson_eq, Except.error.injEq] at h
    exact h ▸ he

end EscapeClause
