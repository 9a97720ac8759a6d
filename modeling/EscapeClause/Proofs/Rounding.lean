import EscapeClause.Decimal
import Mathlib

/-!
# Which integer a decimal is

Rounding is a rule about numbers: a number lies in a binade, whose 53 binary digits end in a step,
and it goes to the nearest multiple of that step, to the even multiple where two are equally near
(`RoundsTo`). The rule leaves one result (`RoundsTo.eq`). A decimal is read by counting in whole
units and comparing remainders, and that is the rule (`integer?_eq_some_iff`).
-/

namespace EscapeClause

/-! ### The rule -/

/-- The last of the 53 binary digits of a number stands for `2 ^ k`. No digit stands for less than
`2 ^ -1074`. -/
structure EndsAt (v : ℚ) (k : ℤ) : Prop where
  le : -1074 ≤ k
  lt : |v| < 2 ^ (k + 53)
  first : k = -1074 ∨ 2 ^ (k + 52) ≤ |v|

/-- The first number is the second one when it is rounded. -/
def RoundsTo (v r : ℚ) : Prop :=
  ∃ k m : ℤ, EndsAt v k ∧ r = m * 2 ^ k ∧
    (2 * |v - r| < 2 ^ k ∨ 2 * |v - r| = 2 ^ k ∧ Even m)

theorem EndsAt.eq {v : ℚ} {k l : ℤ} (hk : EndsAt v k) (hl : EndsAt v l) : k = l := by
  have hle : ∀ {k l : ℤ}, EndsAt v k → EndsAt v l → k ≤ l := by
    intro k l hk hl
    rcases hk.first with rfl | hfirst
    · exact hl.le
    · have hpow : (2 : ℚ) ^ (k + 52) < 2 ^ (l + 53) := hfirst.trans_lt hl.lt
      have hexp := (zpow_lt_zpow_iff_right₀ (by norm_num : (1 : ℚ) < 2)).1 hpow
      omega
  exact le_antisymm (hle hk hl) (hle hl hk)

/-- Of two different multiples of a step only one is the nearest, or only one is even. -/
theorem RoundsTo.eq {v r s : ℚ} (hr : RoundsTo v r) (hs : RoundsTo v s) : r = s := by
  obtain ⟨k, m, hk, rfl, hm⟩ := hr
  obtain ⟨l, n, hl, rfl, hn⟩ := hs
  obtain rfl := hk.eq hl
  have hstep : (0 : ℚ) < 2 ^ k := by positivity
  have hapart : |((m - n : ℤ) : ℚ)| * 2 ^ k ≤ |v - m * 2 ^ k| + |v - n * 2 ^ k| := by
    have habs := abs_sub_le (m * 2 ^ k : ℚ) v (n * 2 ^ k)
    rw [abs_sub_comm _ v, ← sub_mul, abs_mul, abs_of_pos hstep] at habs
    exact_mod_cast habs
  have hone : |((m - n : ℤ) : ℚ)| ≤ 1 := by
    have hhalves : |v - m * 2 ^ k| + |v - n * 2 ^ k| ≤ 2 ^ k := by
      rcases hm with hm | ⟨hm, -⟩ <;> rcases hn with hn | ⟨hn, -⟩ <;> linarith
    exact le_of_mul_le_mul_right (by linarith) hstep
  have hnear : |m - n| ≤ 1 := by exact_mod_cast hone
  by_cases heq : m = n
  · rw [heq]
  -- Neighbours with the number halfway between them are not both even.
  · exfalso
    have hdiff : |m - n| = 1 := le_antisymm hnear (Int.one_le_abs (sub_ne_zero.2 heq))
    have hdiff' : |((m - n : ℤ) : ℚ)| = 1 := by exact_mod_cast hdiff
    rw [hdiff', one_mul] at hapart
    rcases hm with hm | ⟨hm, hevenm⟩
    · rcases hn with hn | ⟨hn, -⟩ <;> linarith
    · rcases hn with hn | ⟨hn, hevenn⟩
      · linarith
      · have heven := hevenm.sub hevenn
        rcases (abs_eq (by norm_num : (0 : ℤ) ≤ 1)).1 hdiff with h | h <;> rw [h] at heven <;>
          exact absurd heven (by decide)

theorem RoundsTo.neg {v r : ℚ} (h : RoundsTo v r) : RoundsTo (-v) (-r) := by
  obtain ⟨k, m, hk, rfl, hm⟩ := h
  refine ⟨k, -m, ⟨hk.le, by rw [abs_neg]; exact hk.lt, by rw [abs_neg]; exact hk.first⟩, ?_, ?_⟩
  · push_cast
    ring
  · rw [even_neg, ← neg_sub_neg, neg_neg, neg_neg, abs_sub_comm]
    exact hm

namespace Decimal

/-! ### Counting in units -/

/-- The remainder decides between the two neighbours of a quotient. -/
theorem divNearest_spec (a : ℕ) {b : ℕ} (hb : 0 < b) :
    2 * |(a / b : ℚ) - divNearest a b| < 1 ∨
      2 * |(a / b : ℚ) - divNearest a b| = 1 ∧ Even (divNearest a b) := by
  have hbq : (0 : ℚ) < b := by exact_mod_cast hb
  -- The fractional part is the remainder over `b`: every distance below is a statement about it.
  have hquotient : (a / b : ℚ) - (a / b : ℕ) = (a % b : ℕ) / b := by
    have hsum : (b : ℚ) * (a / b : ℕ) + (a % b : ℕ) = a := by exact_mod_cast Nat.div_add_mod a b
    field_simp
    linarith
  rw [divNearest]
  split
  · next h =>
    -- Rounded up: the remainder is above a half, or a half with an odd quotient below.
    have habove : |(a / b : ℚ) - (a / b + 1 : ℕ)| = 1 - (a % b : ℕ) / b := by
      have hlt : ((a % b : ℕ) / b : ℚ) < 1 := by
        rw [div_lt_one hbq]
        exact_mod_cast Nat.mod_lt a hb
      rw [Nat.cast_succ, ← sub_sub, hquotient, abs_sub_comm, abs_of_pos (sub_pos.2 hlt)]
    rw [habove]
    rcases h with h | ⟨h, hodd⟩
    · left
      have hlt : (1 : ℚ) < 2 * ((a % b : ℕ) / b) := by
        rw [← mul_div_assoc, one_lt_div hbq]
        exact_mod_cast h
      linarith
    · right
      have heq : 2 * ((a % b : ℕ) / b : ℚ) = 1 := by
        rw [← mul_div_assoc, div_eq_one_iff_eq hbq.ne']
        exact_mod_cast h.symm
      exact ⟨by linarith, Nat.even_add_one.2 (by rwa [Nat.not_even_iff])⟩
  · next h =>
    -- Rounded down: the remainder is below a half, or a half with an even quotient.
    rw [not_or, not_and] at h
    rw [hquotient, abs_of_nonneg (by positivity), ← mul_div_assoc, div_lt_one hbq,
      div_eq_one_iff_eq hbq.ne']
    rcases (Nat.not_lt.1 h.1).lt_or_eq with hlt | heq
    · left
      exact_mod_cast hlt
    · right
      refine ⟨by exact_mod_cast heq, Nat.not_odd_iff_even.1 fun hodd => ?_⟩
      exact h.2 heq.symm (Nat.odd_iff.1 hodd)

def magnitude (d : Decimal) : ℚ := d.digits * 10 ^ d.exponent

/-- The number that a decimal writes. -/
def value (d : Decimal) : ℚ := if d.negative then -d.magnitude else d.magnitude

theorem denominator_pos (d : Decimal) : 0 < d.denominator := Nat.pow_pos (by norm_num)

theorem magnitude_eq (d : Decimal) : d.magnitude = d.numerator / d.denominator := by
  have hsplit : d.exponent = d.exponent.toNat - (-d.exponent).toNat := by omega
  have hnumerator : (d.numerator : ℚ) = d.digits * 10 ^ (d.exponent.toNat : ℤ) := by
    rw [numerator, zpow_natCast]
    exact_mod_cast rfl
  have hdenominator : (d.denominator : ℚ) = 10 ^ ((-d.exponent).toNat : ℤ) := by
    rw [denominator, zpow_natCast]
    exact_mod_cast rfl
  rw [magnitude, hnumerator, hdenominator, mul_div_assoc, ← zpow_sub₀ (by norm_num), ← hsplit]

theorem cast_unitsInOne : (unitsInOne : ℚ) = 2 ^ (fractionDigits : ℤ) := by
  -- The number itself is not to be computed.
  unfold unitsInOne
  generalize fractionDigits = f
  rw [zpow_natCast, Nat.pow_eq, Nat.cast_pow, Nat.cast_ofNat]

/-- The binary logarithm of a whole number of units tells where the digits end. -/
theorem endsAt_step (a b : ℕ) :
    EndsAt (a / b / unitsInOne) ((Nat.log2 (a / b) - 52 : ℕ) - fractionDigits) := by
  have hleast : (-1074 : ℤ) = -fractionDigits := rfl
  rw [cast_unitsInOne]
  -- Only `hleast` is needed of it below, and a numeral of four digits slows the arithmetic.
  generalize fractionDigits = f at hleast ⊢
  have hunits : (0 : ℚ) < 2 ^ (f : ℤ) := zpow_pos two_pos _
  have hnonneg : (0 : ℚ) ≤ a / b / 2 ^ (f : ℤ) := by positivity
  have hpow (e s : ℤ) : (2 : ℚ) ^ (s - f + e) * 2 ^ (f : ℤ) = 2 ^ (s + e) := by
    rw [← zpow_add₀ two_ne_zero]
    congr 1
    ring
  refine ⟨by omega, ?_, ?_⟩
  · -- The quotient has one bit more than its logarithm, so the mantissa stays under 53 bits.
    have hlog : a / b < 2 ^ (Nat.log2 (a / b) - 52 + 53) :=
      Nat.lt_log2_self.trans_le (Nat.pow_le_pow_right two_pos (by omega))
    have hlt : (a / b : ℚ) < 2 ^ (Nat.log2 (a / b) - 52 + 53) := by
      refine (Nat.lt_floor_add_one _).trans_le ?_
      rw [Nat.floor_div_eq_div]
      exact_mod_cast hlog
    rw [abs_of_nonneg hnonneg, div_lt_iff₀ hunits, hpow]
    exact_mod_cast hlt
  · -- Either the step is the least there is, or the mantissa has all of its 53 bits.
    rcases Nat.eq_zero_or_pos (Nat.log2 (a / b) - 52) with hzero | hpos
    · left
      rw [hzero, hleast, Nat.cast_zero, zero_sub]
    · right
      have hne : a / b ≠ 0 := by
        intro h
        simp [h] at hpos
      have hle : ((2 ^ Nat.log2 (a / b) : ℕ) : ℚ) ≤ a / b :=
        (Nat.cast_le.2 (Nat.log2_self_le hne)).trans Nat.cast_div_le
      have hexp : (2 : ℚ) ^ (((Nat.log2 (a / b) - 52 : ℕ) : ℤ) + 52) =
          (2 ^ Nat.log2 (a / b) : ℕ) := by
        have hsum : ((Nat.log2 (a / b) - 52 : ℕ) : ℤ) + 52 = (Nat.log2 (a / b) : ℕ) := by omega
        rw [hsum, zpow_natCast, Nat.cast_pow, Nat.cast_ofNat]
      rwa [abs_of_nonneg hnonneg, le_div_iff₀ hunits, hpow, hexp]

theorem roundsTo_rounded (d : Decimal) : RoundsTo d.magnitude (d.rounded / unitsInOne) := by
  let units := d.numerator * unitsInOne
  let s := Nat.log2 (units / d.denominator) - 52
  let m := divNearest units (d.denominator * 2 ^ s)
  have hunits : (unitsInOne : ℚ) ≠ 0 := by
    rw [cast_unitsInOne]
    exact zpow_ne_zero _ two_ne_zero
  have hmagnitude : d.magnitude = units / d.denominator / unitsInOne := by
    rw [magnitude_eq, Nat.cast_mul, mul_div_right_comm, mul_div_cancel_right₀ _ hunits]
  have hstep : (2 : ℚ) ^ ((s : ℤ) - fractionDigits) = 2 ^ s / unitsInOne := by
    rw [zpow_sub₀ two_ne_zero, zpow_natCast, cast_unitsInOne]
  have hrounded : (d.rounded : ℚ) / unitsInOne = (m : ℤ) * 2 ^ ((s : ℤ) - fractionDigits) := by
    have hcast : (d.rounded : ℚ) = m * 2 ^ s := by
      show ((m * Nat.pow 2 s : ℕ) : ℚ) = m * 2 ^ s
      exact_mod_cast rfl
    rw [hcast, hstep, Int.cast_natCast, mul_div_assoc]
  have hpos : (0 : ℚ) < 2 ^ ((s : ℤ) - fractionDigits) := zpow_pos two_pos _
  -- Measured in steps, the distance is the one from a quotient to its nearest number.
  have hdistance : |d.magnitude - d.rounded / unitsInOne| =
      |(units / (d.denominator * 2 ^ s : ℕ) : ℚ) - m| * 2 ^ ((s : ℤ) - fractionDigits) := by
    rw [hrounded, ← abs_of_pos hpos, ← abs_mul, abs_of_pos hpos, sub_mul, hmagnitude]
    congr 2
    rw [hstep, Nat.cast_mul d.denominator, Nat.cast_pow, Nat.cast_ofNat]
    field_simp
  refine ⟨(s : ℤ) - fractionDigits, m, ?_, hrounded, ?_⟩
  · rw [hmagnitude]
    exact endsAt_step units d.denominator
  · rw [hdistance, ← mul_assoc, Int.even_coe_nat]
    have hspec := divNearest_spec units (Nat.mul_pos d.denominator_pos (Nat.two_pow_pos s))
    refine hspec.imp (fun h => ?_) (And.imp_left fun h => ?_)
    · exact mul_lt_of_lt_one_left hpos h
    · rw [h, one_mul]

theorem unitsInOne_pos : 0 < unitsInOne := by
  unfold unitsInOne
  generalize fractionDigits = f
  exact Nat.two_pow_pos f

/-! ### Reading integers -/

theorem roundsTo_value (d : Decimal) :
    RoundsTo d.value
      (if d.negative then -(d.rounded / unitsInOne) else d.rounded / unitsInOne : ℚ) := by
  rw [value]
  split
  · exact d.roundsTo_rounded.neg
  · exact d.roundsTo_rounded

theorem cast_signed (d : Decimal) (n : ℕ) :
    ((d.signed n : ℤ) : ℚ) = if d.negative then -(n : ℚ) else n := by
  rw [signed]
  split
  · rw [Int.cast_neg, Int.cast_natCast]
  · rw [Int.cast_natCast]

theorem abs_value (d : Decimal) : |d.value| = d.magnitude := by
  have hnonneg : 0 ≤ d.magnitude := by
    rw [magnitude]
    positivity
  rw [value]
  split
  · rw [abs_neg, abs_of_nonneg hnonneg]
  · exact abs_of_nonneg hnonneg

/-- A number so small that half of the last digit is more is rounded to zero. -/
theorem roundsTo_zero {v : ℚ} (h : 2 * |v| < 2 ^ (-1074 : ℤ)) : RoundsTo v 0 := by
  refine ⟨-1074, 0, ⟨le_rfl, ?_, .inl rfl⟩, by simp, .inl (by simpa using h)⟩
  have hpow : (2 : ℚ) ^ (-1074 : ℤ) ≤ 2 ^ (-1074 + 53 : ℤ) :=
    zpow_le_zpow_right₀ one_le_two (by norm_num)
  linarith [abs_nonneg v]

/-- Rounding does not halve a number. -/
theorem abs_le_of_roundsTo {v r : ℚ} (h : RoundsTo v r) (hv : 1 ≤ |v|) : |v| ≤ 2 * |r| := by
  obtain ⟨k, m, hk, rfl, hm⟩ := h
  have hfirst : (2 : ℚ) ^ (k + 52) ≤ |v| := by
    refine hk.first.resolve_left ?_
    rintro rfl
    have hpow : (2 : ℚ) ^ (-1074 + 53 : ℤ) ≤ 1 := zpow_le_one_of_nonpos₀ one_le_two (by norm_num)
    linarith [hk.lt]
  have hstep : (2 : ℚ) ^ k ≤ 2 ^ (k + 52) := zpow_le_zpow_right₀ one_le_two (by omega)
  have hapart := abs_sub_abs_le_abs_sub v (m * 2 ^ k : ℚ)
  rcases hm with hm | ⟨hm, -⟩ <;> linarith

theorem two_mul_magnitude_lt {d : Decimal}
    (h : d.digits = 0 ∨ d.exponent < -(400 + Nat.log2 d.digits : ℤ)) :
    2 * d.magnitude < 2 ^ (-1074 : ℤ) := by
  rw [magnitude]
  rcases h with h | h
  · rw [h, Nat.cast_zero, zero_mul, mul_zero]
    exact zpow_pos two_pos _
  · obtain ⟨e, he⟩ : ∃ e : ℕ, d.exponent = -e := ⟨(-d.exponent).toNat, by omega⟩
    have hdigits : (d.digits : ℚ) < 2 ^ (Nat.log2 d.digits + 1 : ℤ) := by
      exact_mod_cast Nat.lt_log2_self (n := d.digits)
    -- A power of ten is at least the power of eight.
    have hpower : (10 : ℚ) ^ d.exponent ≤ 2 ^ (3 * d.exponent) := by
      rw [he, zpow_mul, zpow_neg, zpow_neg, zpow_natCast, zpow_natCast]
      exact inv_anti₀ (by positivity) (pow_le_pow_left₀ (by norm_num) (by norm_num) e)
    have hexp : 1 + (Nat.log2 d.digits + 1 + 3 * d.exponent) ≤ -1074 := by omega
    calc 2 * (d.digits * 10 ^ d.exponent : ℚ)
        < 2 * (2 ^ (Nat.log2 d.digits + 1 : ℤ) * 2 ^ (3 * d.exponent)) := by
          gcongr 2 * ?_
          exact mul_lt_mul hdigits hpower (zpow_pos (by norm_num) _) (by positivity)
      _ = 2 ^ (1 + (Nat.log2 d.digits + 1 + 3 * d.exponent)) := by
          rw [← zpow_add₀ two_ne_zero, zpow_one_add₀ two_ne_zero]
      _ ≤ 2 ^ (-1074 : ℤ) := zpow_le_zpow_right₀ one_le_two hexp

theorem le_magnitude {d : Decimal} (hdigits : d.digits ≠ 0) (h : 400 < d.exponent) :
    10 ^ 21 ≤ d.magnitude := by
  have hone : (1 : ℚ) ≤ d.digits := by exact_mod_cast Nat.one_le_iff_ne_zero.2 hdigits
  have hpower : (10 : ℚ) ^ (21 : ℤ) ≤ 10 ^ d.exponent :=
    zpow_le_zpow_right₀ (by norm_num) (by omega)
  rw [magnitude]
  calc (10 : ℚ) ^ 21 = 1 * 10 ^ (21 : ℤ) := by norm_num
    _ ≤ d.digits * 10 ^ d.exponent := mul_le_mul hone hpower (by positivity) (by positivity)

theorem not_roundsTo_of_large {d : Decimal} {n : ℤ} (hn : |n| ≤ 2 ^ 64) (hdigits : d.digits ≠ 0)
    (hlarge : 400 < d.exponent) : ¬ RoundsTo d.value n := by
  intro h
  have hmagnitude := le_magnitude hdigits hlarge
  rw [← abs_value] at hmagnitude
  have hhalf := abs_le_of_roundsTo h ((by norm_num : (1 : ℚ) ≤ 10 ^ 21).trans hmagnitude)
  have hbound : |(n : ℚ)| ≤ 2 ^ 64 := by exact_mod_cast hn
  norm_num at hmagnitude hbound
  linarith

/-- A count of units that a decimal is rounded to is read as the integer that it makes up. -/
theorem whole_eq_some_iff {d : Decimal} {n : ℤ} {units one : ℕ} (hone : 0 < one)
    (hrounds : RoundsTo d.value (if d.negative then -(units / one) else units / one : ℚ)) :
    (if units % one = 0 then some (d.signed (units / one)) else none) = some n ↔
      RoundsTo d.value n := by
  have hne : (one : ℚ) ≠ 0 := Nat.cast_ne_zero.2 hone.ne'
  constructor
  · intro h
    split at h
    · next hwhole =>
      have hquotient : (units : ℚ) / one = (units / one : ℕ) := by
        rw [div_eq_iff hne]
        exact_mod_cast (Nat.div_mul_cancel (Nat.dvd_of_mod_eq_zero hwhole)).symm
      rw [← Option.some.inj h, cast_signed, ← hquotient]
      exact hrounds
    · cases h
  · intro h
    have heq := hrounds.eq h
    have habs : (units : ℚ) / one = n.natAbs := by
      have hnonneg : (0 : ℚ) ≤ units / one := by positivity
      rw [Nat.cast_natAbs, Int.cast_abs, ← heq]
      split
      · rw [abs_neg, abs_of_nonneg hnonneg]
      · rw [abs_of_nonneg hnonneg]
    have hwhole : units = n.natAbs * one := by
      rw [div_eq_iff hne] at habs
      exact_mod_cast habs
    rw [habs, ← cast_signed] at heq
    rw [hwhole, Nat.mul_mod_left, if_pos rfl, Nat.mul_div_cancel _ hone]
    exact congrArg some (by exact_mod_cast heq)

/-- A decimal is read as the integer that it is rounded to, if that is no longer than a word. -/
theorem integer?_eq_some_iff {d : Decimal} {n : ℤ} (hn : |n| ≤ 2 ^ 64) :
    d.integer? = some n ↔ RoundsTo d.value n := by
  rw [integer?]
  by_cases hsmall : d.digits = 0 ∨ d.exponent < -(400 + Nat.log2 d.digits : ℤ)
  · have hzero : RoundsTo d.value 0 := roundsTo_zero (by
      rw [abs_value]
      exact two_mul_magnitude_lt hsmall)
    rw [if_pos hsmall, Option.some.injEq]
    constructor
    · rintro rfl
      rwa [Int.cast_zero]
    · intro h
      exact_mod_cast hzero.eq h
  rw [if_neg hsmall]
  by_cases hlarge : 400 < d.exponent
  · rw [if_pos hlarge]
    exact iff_of_false (fun h => nomatch h)
      (not_roundsTo_of_large hn (not_or.1 hsmall).1 hlarge)
  rw [if_neg hlarge]
  exact whole_eq_some_iff unitsInOne_pos d.roundsTo_value

end Decimal

end EscapeClause
