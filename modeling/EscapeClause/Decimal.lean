/-!
# Decimals

A number with a fraction or an exponent is kept as it is written. What is asked of it is which
integer it is (`integer?`) once it is rounded to binary floating point: to 53 binary digits, of
which none stands for less than `2 ^ -1074`, and to the even neighbour where two are equally near.
So its absolute value is counted in units of `2 ^ -1074`, and a rounded value is a number of units.
-/

namespace EscapeClause

/-- A number with a fraction or an exponent: `digits · 10 ^ exponent`. -/
structure Decimal where
  negative : Bool
  digits : Nat
  exponent : Int
  deriving DecidableEq, Repr

namespace Decimal

/-- The numerator of the absolute value as a fraction. -/
def numerator (d : Decimal) : Nat := d.digits * Nat.pow 10 d.exponent.toNat

/-- The denominator of the absolute value as a fraction. -/
def denominator (d : Decimal) : Nat := Nat.pow 10 (-d.exponent).toNat

/-- A quotient rounded to the nearest number, to the even one of two that are equally near. -/
def divNearest (a b : Nat) : Nat :=
  let q := a / b
  if b < 2 * (a % b) ∨ b = 2 * (a % b) ∧ q % 2 = 1 then q + 1 else q

/-- The number of binary digits after the point. -/
def fractionDigits : Nat := 1074

def unitsInOne : Nat := Nat.pow 2 fractionDigits

/-- The absolute value, rounded, in units. -/
def rounded (d : Decimal) : Nat :=
  let units := d.numerator * unitsInOne
  -- The last one of 53 digits, the first of which stands for the largest power of two.
  let step := Nat.pow 2 (Nat.log2 (units / d.denominator) - 52)
  divNearest units (d.denominator * step) * step

def signed (d : Decimal) (n : Nat) : Int := if d.negative then -n else n

/-- The integer that a decimal is when it is rounded, if it is one; exponents above 400 are left
out. -/
def integer? (d : Decimal) : Option Int :=
  -- What is far too small or too large is decided by its order of magnitude alone.
  if d.digits = 0 ∨ d.exponent < -(400 + Nat.log2 d.digits : Int) then some 0
  else if 400 < d.exponent then none
  else if d.rounded % unitsInOne = 0 then some (d.signed (d.rounded / unitsInOne))
  else none

end Decimal

end EscapeClause
