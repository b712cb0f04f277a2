import Toolsmith.Binary64.Basic

/-!
# Shortest decimal text of a binary64 number

The text of a number has the fewest digits that read back as that number, and of those the
digits nearest to it. For 1, 2, … 17 digits the two neighbours of the value on that decimal grid
are tested in exact arithmetic against the interval of reals that round to the value; the first
grid with a hit gives the digits.

## Main definitions

* `Binary64.shortest`: the digits as a natural number, with a power of ten.
* `Binary64.text`: positional from `10 ^ -5` up to `10 ^ 16`, else with an exponent; always a
  point or an exponent.
-/

namespace Toolsmith.Binary64

/-- Four times the significand, so that the ends of the interval are whole. -/
def quarters (x : Binary64) : Nat :=
  4 * x.significand

/-- Lower end of the interval of reals that round to the number, in quarters. -/
def lowerQuarters (x : Binary64) : Nat :=
  if x.significand = Nat.pow 2 52 ∧ -1074 < x.exponent then x.quarters - 1 else x.quarters - 2

/-- Upper end of the interval of reals that round to the number, in quarters. -/
def upperQuarters (x : Binary64) : Nat :=
  x.quarters + 2

/-- `c · 10 ^ k` against `q` quarters of a unit in the last place, as an ordering. -/
def compareDecimal (x : Binary64) (c : Nat) (k : Int) (q : Nat) : Ordering :=
  let e := x.exponent - 2
  compare (c * Nat.pow 10 k.toNat * Nat.pow 2 (-e).toNat)
    (q * Nat.pow 2 e.toNat * Nat.pow 10 (-k).toNat)

/-- Whether `c · 10 ^ k` rounds to the number. -/
def isNear (x : Binary64) (c : Nat) (k : Int) : Bool :=
  let even := x.significand % 2 == 0
  let low := x.compareDecimal c k x.lowerQuarters
  let high := x.compareDecimal c k x.upperQuarters
  (low == .gt || (even && low == .eq)) && (high == .lt || (even && high == .eq))

/-- The largest `p` with `10 ^ p` at most the absolute value, for a number other than zero. -/
def floorLog10 (x : Binary64) : Int :=
  if x.den ≤ x.num then ((Nat.toDigits 10 (x.num / x.den)).length : Int) - 1
  else -((Nat.toDigits 10 ((x.den + x.num - 1) / x.num - 1)).length : Int)

/-- The nearest of the two neighbours on the grid `10 ^ k` that round to the number. -/
def onGrid (x : Binary64) (k : Int) : Option Nat :=
  let e := x.exponent - 2
  let top := x.quarters * Nat.pow 2 e.toNat * Nat.pow 10 (-k).toNat
  let bottom := Nat.pow 2 (-e).toNat * Nat.pow 10 k.toNat
  let low := top / bottom
  let rest := top % bottom
  match x.isNear low k, x.isNear (low + 1) k with
  | true, true =>
    if 2 * rest < bottom then some low
    else if bottom < 2 * rest then some (low + 1)
    else if low % 2 = 0 then some low else some (low + 1)
  | true, false => some low
  | false, true => some (low + 1)
  | false, false => none

/-- The number without its trailing zeros, and how many there were; at most `fuel` of them. -/
def stripZeros : Nat → Nat → Int → Nat × Int
  | 0, c, k => (c, k)
  | fuel + 1, c, k => if c % 10 = 0 ∧ c ≠ 0 then stripZeros fuel (c / 10) (k + 1) else (c, k)

/-- Digits `c` and a power `k` with `c · 10 ^ k` the shortest decimal that reads back as the
absolute value. -/
def shortest (x : Binary64) : Nat × Int :=
  if x.isZero then (0, 0)
  else
    let p := x.floorLog10
    let grids := (List.range 17).map fun (n : Nat) ↦ p - (n : Int)
    match grids.findSome? fun k ↦ (x.onGrid k).map (·, k) with
    | some (c, k) => stripZeros 20 c k
    | none => (x.num / x.den, 0)

/-- Digits placed around the point that stands `e` digits after the first one. -/
def layout (digits : List Char) (e : Int) : List Char :=
  if e < -5 ∨ 16 ≤ e then
    let tail := digits.drop 1
    let sign := if e < 0 then '-' else '+'
    digits.take 1 ++ (if tail.isEmpty then [] else '.' :: tail) ++
      'e' :: sign :: Nat.toDigits 10 e.natAbs
  else if e < 0 then
    '0' :: '.' :: (List.replicate (-e - 1).toNat '0' ++ digits)
  else
    let whole := e.toNat + 1
    let padded := digits ++ List.replicate (whole - digits.length) '0'
    let fraction := padded.drop whole
    padded.take whole ++ '.' :: (if fraction.isEmpty then ['0'] else fraction)

/-- The text of the number. -/
def text (x : Binary64) : List Char :=
  let (c, k) := x.shortest
  let digits := Nat.toDigits 10 c
  let sign := if x.negative then ['-'] else []
  sign ++ layout digits (k + digits.length - 1)

end Toolsmith.Binary64
