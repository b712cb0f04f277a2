import Mathlib.Algebra.Order.Field.Rat
import Mathlib.Data.Rat.Cast.Order
import Mathlib.Tactic.FieldSimp
import Mathlib.Tactic.Linarith
import Mathlib.Tactic.NormNum
import Mathlib.Tactic.Positivity
import Mathlib.Tactic.Ring
import Toolsmith.Binary64.Basic

/-!
# Ratios that round to infinity

The largest finite number is `2 ^ 1024 - 2 ^ 971`, and with one more exponent the next one would be
`2 ^ 1024`. The middle between them is `2 ^ 1024 - 2 ^ 970`. It is as near to one as to the other,
and rounds to the one with the even significand, which is the one that is too large. So a ratio has
a nearest finite number exactly if it is less than that.

## Main statements

* `Binary64.floorLog2_spec`: the power of two that a ratio starts from.
* `Binary64.even_le_roundDiv_iff`: the ratios that are rounded to an even number or beyond.
* `Binary64.ofRatio_eq_none_iff`: the ratios that are too large.
-/

namespace Toolsmith

/-- A power with an exponent of either sign as a ratio of powers, one of which is one. -/
theorem zpow_eq_div (b : ℚ) (e : ℤ) : b ^ e = b ^ e.toNat / b ^ (-e).toNat := by
  rcases le_total 0 e with sign | sign
  · obtain ⟨n, rfl⟩ := Int.eq_ofNat_of_zero_le sign
    simp
  · obtain ⟨n, hn⟩ := Int.eq_ofNat_of_zero_le (Int.neg_nonneg_of_nonpos sign)
    obtain rfl : e = -n := by omega
    simp

namespace Binary64

variable {num den : ℕ}

/-! ### Rounded quotients -/

theorem div_le_roundDiv (num den : ℕ) : num / den ≤ roundDiv num den := by
  simp only [roundDiv]
  split_ifs <;> omega

theorem roundDiv_le (num den : ℕ) : roundDiv num den ≤ num / den + 1 := by
  simp only [roundDiv]
  split_ifs <;> omega

/-- The next quotient is even, so it is taken from half a unit on. -/
theorem succ_le_roundDiv_iff (even : (num / den + 1) % 2 = 0) :
    num / den + 1 ≤ roundDiv num den ↔ den ≤ 2 * (num % den) := by
  simp only [roundDiv]
  split_ifs <;> omega

/-- A quotient is rounded to an even number or beyond if it is half a unit below or more. -/
theorem even_le_roundDiv_iff {k : ℕ} (pos : 0 < den) (even : k % 2 = 0) :
    k ≤ roundDiv num den ↔ 2 * (k * den) ≤ 2 * num + den := by
  have split : num / den * den + num % den = num := Nat.div_add_mod' num den
  have small : num % den < den := Nat.mod_lt num pos
  obtain below | rfl | above : k ≤ num / den ∨ k = num / den + 1 ∨ num / den + 2 ≤ k := by omega
  · have scaled : k * den ≤ num / den * den := Nat.mul_le_mul_right den below
    exact iff_of_true (below.trans (div_le_roundDiv num den)) (by omega)
  · have scaled : (num / den + 1) * den = num / den * den + den := Nat.succ_mul _ _
    rw [succ_le_roundDiv_iff even]
    omega
  · have scaled : (num / den + 2) * den ≤ k * den := Nat.mul_le_mul_right den above
    have expanded : (num / den + 2) * den = num / den * den + 2 * den := Nat.add_mul _ _ _
    have most := roundDiv_le num den
    exact iff_of_false (by omega) (by omega)

/-! ### Binary logarithms -/

/-- The comparison of a power of two with a ratio. -/
theorem two_zpow_le_div_iff (pos : 0 < den) (e : ℤ) :
    (2 : ℚ) ^ e ≤ num / den ↔ den * Nat.pow 2 e.toNat ≤ num * Nat.pow 2 (-e).toNat := by
  rw [zpow_eq_div, div_le_div_iff₀ (pow_pos two_pos _) (Nat.cast_pos.2 pos), mul_comm]
  exact_mod_cast Iff.rfl

/-- A positive number lies between the powers of two that its logarithm tells. -/
theorem log2_bounds {n : ℕ} (h : n ≠ 0) :
    (2 : ℚ) ^ (n.log2 : ℤ) ≤ n ∧ (n : ℚ) < 2 ^ ((n.log2 : ℤ) + 1) := by
  constructor
  · exact_mod_cast Nat.log2_self_le h
  · exact_mod_cast Nat.lt_log2_self

/-- A positive ratio lies between the powers of two that its logarithm tells. -/
theorem floorLog2_spec (hn : num ≠ 0) (hd : den ≠ 0) :
    (2 : ℚ) ^ floorLog2 num den ≤ num / den ∧ (num / den : ℚ) < 2 ^ (floorLog2 num den + 1) := by
  obtain ⟨numBelow, numAbove⟩ := log2_bounds hn
  obtain ⟨denBelow, denAbove⟩ := log2_bounds hd
  have pos : (0 : ℚ) < den := Nat.cast_pos.2 (Nat.pos_of_ne_zero hd)
  have two : (2 : ℚ) ≠ 0 := two_ne_zero
  have nonneg (e : ℤ) : (0 : ℚ) ≤ 2 ^ e := zpow_nonneg two_pos.le e
  let k : ℤ := num.log2 - den.log2
  have above : (num / den : ℚ) < 2 ^ (k + 1) := by
    rw [div_lt_iff₀ pos]
    calc (num : ℚ) < 2 ^ (k + 1 + den.log2) := by
          rwa [show k + 1 + den.log2 = num.log2 + 1 by omega]
      _ = 2 ^ (k + 1) * 2 ^ (den.log2 : ℤ) := zpow_add₀ two _ _
      _ ≤ 2 ^ (k + 1) * den := mul_le_mul_of_nonneg_left denBelow (nonneg _)
  have below : (2 : ℚ) ^ (k - 1) ≤ num / den := by
    rw [le_div_iff₀ pos]
    calc (2 : ℚ) ^ (k - 1) * den ≤ 2 ^ (k - 1) * 2 ^ ((den.log2 : ℤ) + 1) :=
          mul_le_mul_of_nonneg_left denAbove.le (nonneg _)
      _ = 2 ^ (k - 1 + (den.log2 + 1)) := (zpow_add₀ two _ _).symm
      _ ≤ num := by rwa [show k - 1 + (den.log2 + 1) = num.log2 by omega]
  rw [floorLog2]
  simp only [← two_zpow_le_div_iff (Nat.pos_of_ne_zero hd)]
  split
  next reached => exact ⟨reached, above⟩
  next missed => exact ⟨below, by rw [Int.sub_add_cancel]; exact lt_of_not_ge missed⟩

/-! ### Overflow -/

/-- The rounded number is too large by its exponent, or by a significand that takes one more. -/
theorem ofRatio_eq_none_iff_exponent (negative : Bool) (h : num ≠ 0) {e : ℤ} {m : ℕ}
    (he : max (-1074) (floorLog2 num den - 52) = e)
    (hm : roundDiv (num * Nat.pow 2 (-e).toNat) (den * Nat.pow 2 e.toNat) = m) :
    ofRatio negative num den = none ↔ 971 < e ∨ e = 971 ∧ m = Nat.pow 2 53 := by
  rw [ofRatio, if_neg h, he]
  simp only [hm]
  by_cases carry : m = Nat.pow 2 53
  · rw [if_pos carry]
    simp only [ite_eq_left_iff, reduceCtorEq, imp_false, not_not, carry, and_true]
    omega
  · rw [if_neg carry]
    simp only [ite_eq_left_iff, reduceCtorEq, imp_false, not_not, carry, and_false, or_false]

/-- Below `2 ^ 53` units a significand is rounded to that if half a unit is missing or less. -/
theorem roundDiv_eq_top_iff {half : ℕ} (hd : 0 < den) (hh : 0 < half)
    (below : num < den * (2 ^ 54 * half)) :
    roundDiv num (den * (2 * half)) = Nat.pow 2 53 ↔
      den * (2 ^ 54 * half) ≤ num + den * half := by
  have pos : 0 < den * (2 * half) := Nat.mul_pos hd (Nat.mul_pos Nat.two_pos hh)
  have most : num / (den * (2 * half)) < 2 ^ 53 := by
    rw [Nat.div_lt_iff_lt_mul pos]
    calc num < den * (2 ^ 54 * half) := below
      _ = 2 ^ 53 * (den * (2 * half)) := by ring
  have rounded := roundDiv_le num (den * (2 * half))
  have reached : 2 ^ 53 ≤ roundDiv num (den * (2 * half)) ↔ _ :=
    even_le_roundDiv_iff pos (by norm_num)
  have units : 2 * (2 ^ 53 * (den * (2 * half))) = 2 * (den * (2 ^ 54 * half)) := by ring
  have unit : den * (2 * half) = 2 * (den * half) := by ring
  show _ = 2 ^ 53 ↔ _
  omega

/-- A ratio with the exponent of the largest numbers is too large if half a unit or less is missing
to the next power of two. -/
theorem ofRatio_eq_none_iff_of_top {half : ℕ} (negative : Bool) (hn : num ≠ 0) (hd : 0 < den)
    (hh : 0 < half) (unit : Nat.pow 2 (971 : ℤ).toNat = 2 * half) (top : floorLog2 num den = 1023)
    (below : num < den * (2 ^ 54 * half)) :
    ofRatio negative num den = none ↔ den * (2 ^ 54 * half) ≤ num + den * half := by
  have exponent : max (-1074) (floorLog2 num den - 52) = 971 := by omega
  have unshifted : num * Nat.pow 2 (-971 : ℤ).toNat = num := Nat.mul_one num
  rw [ofRatio_eq_none_iff_exponent negative hn exponent rfl, unit, unshifted,
    roundDiv_eq_top_iff hd hh below]
  simp only [lt_self_iff_false, true_and, false_or]

/-- A ratio has no nearest finite number if it is at least the middle between the largest one and
the next power of two. -/
theorem ofRatio_eq_none_iff (negative : Bool) (hd : den ≠ 0) :
    ofRatio negative num den = none ↔ (2 : ℚ) ^ 1024 - 2 ^ 970 ≤ num / den := by
  -- The powers are counted in half units of the largest numbers, so that none of them is computed.
  obtain ⟨half, hhalf⟩ : ∃ half : ℕ, 2 ^ 970 = half := ⟨_, rfl⟩
  have unit : Nat.pow 2 (971 : ℤ).toNat = 2 * half := by
    rw [← hhalf]
    decide +kernel
  have cast : (2 : ℚ) ^ 970 = half := by
    rw [← hhalf, Nat.cast_pow, Nat.cast_ofNat]
  have last : (2 : ℚ) ^ (1023 : ℤ) = 2 ^ 53 * half := by
    rw [show (1023 : ℤ) = (53 + 970 : ℕ) from rfl, zpow_natCast, pow_add, cast]
  have next : (2 : ℚ) ^ (1024 : ℤ) = 2 ^ 54 * half := by
    rw [show (1024 : ℤ) = (54 + 970 : ℕ) from rfl, zpow_natCast, pow_add, cast]
  have hh : 0 < half := hhalf ▸ pow_pos Nat.two_pos _
  have some : (0 : ℚ) < half := Nat.cast_pos.2 hh
  have pos : (0 : ℚ) < den := Nat.cast_pos.2 (Nat.pos_of_ne_zero hd)
  rw [show (1024 : ℕ) = 54 + 970 from rfl, pow_add, cast]
  by_cases hn : num = 0
  · subst hn
    rw [ofRatio, if_pos rfl, Nat.cast_zero, zero_div]
    exact iff_of_false nofun (not_le_of_gt (by linarith only [some]))
  obtain ⟨below, above⟩ := floorLog2_spec hn hd
  obtain low | top | high : floorLog2 num den < 1023 ∨ floorLog2 num den = 1023 ∨
      1024 ≤ floorLog2 num den := by omega
  · have small : (2 : ℚ) ^ (floorLog2 num den + 1) ≤ 2 ^ (1023 : ℤ) :=
      zpow_le_zpow_right₀ one_le_two (by omega)
    rw [last] at small
    rw [ofRatio_eq_none_iff_exponent negative hn rfl rfl]
    exact iff_of_false (by omega) (not_le_of_gt (by linarith only [some, small, above]))
  · have fits : num < den * (2 ^ 54 * half) := by
      rw [top, show (1023 + 1 : ℤ) = 1024 from rfl, next, div_lt_iff₀ pos, mul_comm] at above
      exact_mod_cast above
    rw [ofRatio_eq_none_iff_of_top negative hn (Nat.pos_of_ne_zero hd) hh unit top fits,
      le_div_iff₀ pos, ← @Nat.cast_le ℚ]
    push_cast
    constructor <;> exact fun reached ↦ by linarith only [reached]
  · have large : (2 : ℚ) ^ (1024 : ℤ) ≤ 2 ^ floorLog2 num den :=
      zpow_le_zpow_right₀ one_le_two high
    rw [next] at large
    rw [ofRatio_eq_none_iff_exponent negative hn rfl rfl]
    exact iff_of_true (.inl (by omega)) (by linarith only [some, large, below])

end Binary64

end Toolsmith
