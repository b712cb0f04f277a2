/-!
# Finite binary64 numbers

A finite binary64 number is a sign, a significand below `2 ^ 53` and an exponent that is at
least `-1074`. Arithmetic is exact on ratios of natural numbers and rounds once at the end, to
the nearest number and to the even significand on a tie.

## Main definitions

* `Binary64`: the numbers, zero with either sign.
* `Binary64.ofRatio`: the number nearest to a ratio, none where the ratio is too large.
* `Binary64.mul`, `Binary64.div`: the rounded product and quotient.
-/

namespace Toolsmith

/-- The number `± significand · 2 ^ exponent`. -/
structure Binary64 where
  /-- Whether the sign is a minus, also for zero. -/
  negative : Bool
  /-- The significand, below `2 ^ 53`. -/
  significand : Nat
  /-- The exponent, from `-1074` to `971`. -/
  exponent : Int
deriving DecidableEq, Inhabited

namespace Binary64

/-- The quotient rounded to the nearest natural number, on a tie to the even one. -/
def roundDiv (num den : Nat) : Nat :=
  let q := num / den
  let r := num % den
  if 2 * r < den then q
  else if den < 2 * r then q + 1
  else if q % 2 = 0 then q else q + 1

/-- The largest `k` with `2 ^ k ≤ num / den`, for positive `num` and `den`. -/
def floorLog2 (num den : Nat) : Int :=
  let k : Int := (num.log2 : Int) - (den.log2 : Int)
  if den * Nat.pow 2 k.toNat ≤ num * Nat.pow 2 (-k).toNat then k else k - 1

/-- Zero with a sign. -/
def zero (negative : Bool) : Binary64 :=
  ⟨negative, 0, -1074⟩

/-- The number nearest to `± num / den`; none where it would be infinite. -/
def ofRatio (negative : Bool) (num den : Nat) : Option Binary64 :=
  if num = 0 then some (zero negative)
  else
    let e := max (-1074) (floorLog2 num den - 52)
    let m := roundDiv (num * Nat.pow 2 (-e).toNat) (den * Nat.pow 2 e.toNat)
    let (m, e) := if m = Nat.pow 2 53 then (Nat.pow 2 52, e + 1) else (m, e)
    if 971 < e then none else some ⟨negative, m, e⟩

/-- The number nearest to a natural number. -/
def ofNat (n : Nat) : Option Binary64 :=
  ofRatio false n 1

/-- Numerator of the absolute value. -/
def num (x : Binary64) : Nat :=
  x.significand * Nat.pow 2 x.exponent.toNat

/-- Denominator of the absolute value. -/
def den (x : Binary64) : Nat :=
  Nat.pow 2 (-x.exponent).toNat

/-- Whether the number is zero, of either sign. -/
def isZero (x : Binary64) : Bool :=
  x.significand == 0

/-- The rounded product; none where it is infinite. -/
def mul (x y : Binary64) : Option Binary64 :=
  ofRatio (x.negative != y.negative) (x.num * y.num) (x.den * y.den)

/-- The rounded quotient by a number other than zero; none where it is infinite. -/
def div (x y : Binary64) : Option Binary64 :=
  ofRatio (x.negative != y.negative) (x.num * y.den) (x.den * y.num)

/-- The number nearest to `10 ^ k`; none from `k = 309` on. -/
def powTen (k : Nat) : Option Binary64 :=
  ofNat (Nat.pow 10 k)

end Binary64

end Toolsmith
