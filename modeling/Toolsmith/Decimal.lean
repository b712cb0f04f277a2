import Toolsmith.Json.Lexeme

/-!
# Finite decimal literals

A decimal literal is an optional sign, digits with at most one point and at least one digit, and
optionally an exponent: `e` or `E`, an optional sign and at least one digit. It denotes a
rational number exactly. The literal is finite as a binary64 number when that rational does not
round to infinity, that is, when its absolute value is below `2 ^ 1024 - 2 ^ 970`.

## Main definitions

* `Decimal`: a significand and an exponent of ten.
* `Decimal.ofChars?`: the absolute value that a literal denotes.
* `Decimal.isFinite`: whether it stays below the bound.
-/

namespace Toolsmith

/-- The number `significand · 10 ^ exponent`. -/
structure Decimal where
  /-- The significand. -/
  significand : Nat
  /-- The exponent of ten. -/
  exponent : Int
deriving DecidableEq

namespace Decimal

open Json (isDigit digitValue)

/-- The number written by digits. -/
def ofDigits (cs : List Char) : Nat :=
  cs.foldl (fun n c ↦ n * 10 + digitValue c) 0

/-- The characters without a leading sign, and whether it was a minus. -/
def splitSign : List Char → Bool × List Char
  | '-' :: r => (true, r)
  | '+' :: r => (false, r)
  | r => (false, r)

/-- The exponent that ends a literal, zero where nothing is left. -/
def exponent? : List Char → Option Int
  | [] => some 0
  | c :: r =>
    if c = 'e' ∨ c = 'E' then
      let (negative, digits) := splitSign r
      if digits ≠ [] ∧ digits.all isDigit then
        some (if negative then -(ofDigits digits : Int) else ofDigits digits)
      else none
    else none

/-- The absolute value that a literal denotes. -/
def ofChars? (cs : List Char) : Option Decimal :=
  let cs := (splitSign cs).2
  let whole := cs.takeWhile isDigit
  let rest := cs.dropWhile isDigit
  let (fraction, rest) := match rest with
    | '.' :: r => (r.takeWhile isDigit, r.dropWhile isDigit)
    | r => ([], r)
  if whole ++ fraction = [] then none
  else (exponent? rest).map fun e ↦ ⟨ofDigits (whole ++ fraction), e - fraction.length⟩

/-- The least absolute value that rounds to infinity. -/
def overflowBound : Nat :=
  Nat.pow 2 1024 - Nat.pow 2 970

/-- Whether the number does not round to infinity. A significand of `d` digits puts it between
`10 ^ (d - 1 + exponent)` and `10 ^ (d + exponent)`, which decides all but the close cases. -/
def isFinite (x : Decimal) : Bool :=
  if x.significand = 0 then true
  else
    let top : Int := (Nat.toDigits 10 x.significand).length + x.exponent
    if top ≤ 308 then true
    else if 310 < top then false
    else
      x.significand * Nat.pow 10 x.exponent.toNat < overflowBound * Nat.pow 10 (-x.exponent).toNat

end Decimal

end Toolsmith
