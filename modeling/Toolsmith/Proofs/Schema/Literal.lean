import Mathlib.Data.Rat.Lemmas
import Toolsmith.Proofs.Schema.Guess

/-!
# Texts that are taken for numbers

A text is taken for a number if it is a literal between blanks and the number that the literal
denotes is finite as a binary64 number. What a literal denotes is told by its parts, without
reading them in turn: its digits before the point, its digits behind the point as a fraction, and a
power of ten. The number is finite exactly if its absolute value is less than `2 ^ 1024 - 2 ^ 970`,
from where on the nearest binary64 number would be infinite, so it does not matter how many digits
or how large an exponent the literal has.

## Main definitions

* `Decimal.Literal.denoted`: the rational number that a literal denotes.
* `Decimal.Literal.nearest`: the binary64 number nearest to it.

## Main statements

* `Decimal.Literal.value_eq`: the reader finds the number that a literal denotes.
* `Decimal.Literal.isSome_nearest_iff`: the literals that have a nearest finite number.
* `ScalarKind.guess_string`: what kind a text is taken for.
-/

namespace Toolsmith

namespace Decimal

/-! ### The number that a literal denotes -/

/-- The sign as a factor. -/
def Sign.factor : Sign → ℤ
  | .none => 1
  | .plus => 1
  | .minus => -1

/-- The exponent of ten that the end of a literal denotes. -/
def Scale.power (s : Scale) : ℤ :=
  s.sign.factor * Nat.ofDigitChars 10 s.digits 0

namespace Literal

/-- The digits behind the point. -/
def behind (l : Literal) : List Char :=
  l.fraction.getD []

/-- The rational number that a literal denotes. -/
def denoted (l : Literal) : ℚ :=
  l.sign.factor *
    (Nat.ofDigitChars 10 l.whole 0 + Nat.ofDigitChars 10 l.behind 0 / 10 ^ l.behind.length) *
    10 ^ l.scale.elim 0 Scale.power

/-- The binary64 number nearest to the one that a literal denotes; none where it is infinite. -/
def nearest (l : Literal) : Option Binary64 :=
  Binary64.ofRatio l.sign.isMinus l.denoted.num.natAbs l.denoted.den

end Literal

/-- Digits are read as the number that they write in the decimal system. -/
theorem ofDigits_eq (cs : List Char) : ofDigits cs = Nat.ofDigitChars 10 cs 0 := by
  rw [ofDigits, Nat.ofDigitChars_eq_foldl]
  simp only [Nat.mul_comm, Json.digitValue]

theorem Sign.factor_mul {R : Type} [Ring R] (s : Sign) (x : R) :
    s.factor * x = if s.isMinus then -x else x := by
  cases s <;> simp [isMinus, factor]

theorem Scale.exponent_eq (s : Scale) : s.exponent = s.power := by
  rw [exponent, power, ofDigits_eq]
  exact (s.sign.factor_mul (Nat.ofDigitChars 10 s.digits 0 : ℤ)).symm

namespace Literal

/-- The digits of a literal write its whole part and its fraction, as if there were no point. -/
theorem cast_ofDigits_append (cs ds : List Char) :
    (ofDigits (cs ++ ds) : ℚ) =
      (Nat.ofDigitChars 10 cs 0 + Nat.ofDigitChars 10 ds 0 / 10 ^ ds.length) * 10 ^ ds.length := by
  have digits : (10 : ℚ) ^ ds.length ≠ 0 := pow_ne_zero _ (by norm_num)
  rw [ofDigits_eq, Nat.ofDigitChars_append, Nat.ofDigitChars_eq_ofDigitChars_zero, add_mul,
    div_mul_cancel₀ _ digits]
  push_cast
  ring

/-- The reader finds the number that a literal denotes. -/
theorem value_eq (l : Literal) : l.value = l.denoted := by
  have ten : (10 : ℚ) ≠ 0 := by norm_num
  have exponent : l.scale.elim 0 Scale.exponent = l.scale.elim 0 Scale.power := by
    cases l.scale with
    | none => rfl
    | some s => exact s.exponent_eq
  have magnitude : l.magnitude.value =
      (Nat.ofDigitChars 10 l.whole 0 + Nat.ofDigitChars 10 l.behind 0 / 10 ^ l.behind.length) *
        10 ^ l.scale.elim 0 Scale.power := by
    rw [Decimal.value, Literal.magnitude, exponent]
    show (ofDigits (l.whole ++ l.behind) : ℚ) * 10 ^ (_ - (l.behind.length : ℤ)) = _
    rw [cast_ofDigits_append, zpow_sub₀ ten, zpow_natCast]
    field_simp
  rw [Literal.value, denoted, magnitude, mul_assoc, Sign.factor_mul]

/-- A literal has a nearest finite number if its value is below the middle between the largest one
and the next power of two. -/
theorem isSome_nearest_iff (l : Literal) :
    l.nearest.isSome = true ↔ |l.denoted| < 2 ^ 1024 - 2 ^ 970 := by
  have ratio : |l.denoted| = (l.denoted.num.natAbs / l.denoted.den : ℚ) := by
    rw [Rat.abs_def, Rat.divInt_eq_div]
    rfl
  rw [Option.isSome_iff_ne_none, nearest, Ne,
    Binary64.ofRatio_eq_none_iff _ l.denoted.den_ne_zero, ratio, not_le]

end Literal

theorem cast_eq_of_add_two_pow {k m n : ℕ} (h : k + 2 ^ n = 2 ^ m) : (k : ℚ) = 2 ^ m - 2 ^ n :=
  eq_sub_of_add_eq (by exact_mod_cast h)

theorem cast_overflowBound : (overflowBound : ℚ) = 2 ^ 1024 - 2 ^ 970 := by
  have sum : overflowBound + 2 ^ 970 = 2 ^ 1024 := by decide +kernel
  exact cast_eq_of_add_two_pow sum

end Decimal

/-! ### The kind of a text -/

namespace ScalarKind

open Decimal (Literal)

/-- Whether a text is a literal between blanks. -/
def Spells (s : String) (l : Literal) : Prop :=
  ∃ before after : List Char, s.toList = before ++ (l.text ++ after) ∧
    (∀ c ∈ before, Text.isBlank c = true) ∧ ∀ c ∈ after, Text.isBlank c = true

theorem spellsNumber_iff_denoted (s : String) :
    spellsNumber s = true ↔ ∃ l, Spells s l ∧ |l.denoted| < 2 ^ 1024 - 2 ^ 970 := by
  rw [spellsNumber_iff]
  constructor
  · rintro ⟨l, before, after, split, first, last, small⟩
    rw [l.value_eq, Decimal.cast_overflowBound] at small
    exact ⟨l, ⟨before, after, split, first, last⟩, small⟩
  · rintro ⟨l, ⟨before, after, split, first, last⟩, small⟩
    rw [← l.value_eq, ← Decimal.cast_overflowBound] at small
    exact ⟨l, before, after, split, first, last, small⟩

theorem guess_string_eq_number_iff (s : String) :
    guess (.string s) = .number ↔ spellsNumber s = true := by
  rw [guess]
  split_ifs <;> simp_all

/-- Neither of the spellings of a truth value spells a number. -/
theorem spellsNumber_of_truth {s : String} (h : s = "true" ∨ s = "false") :
    spellsNumber s = false := by
  rcases h with rfl | rfl <;> decide

/-- A text is taken for a number exactly if it is a literal between blanks and the absolute value of
the number that it denotes is less than `2 ^ 1024 - 2 ^ 970`, or, what is the same, if the nearest
binary64 number is finite. It is taken for a truth value if it is one of the two spellings, without
blanks around it, and for a text otherwise. -/
theorem guess_string (s : String) :
    (guess (.string s) = .number ↔ ∃ l, Spells s l ∧ |l.denoted| < 2 ^ 1024 - 2 ^ 970) ∧
    (guess (.string s) = .number ↔ ∃ l, Spells s l ∧ ∃ x, l.nearest = some x) ∧
    (guess (.string s) = .boolean ↔ s = "true" ∨ s = "false") ∧
    (guess (.string s) = .string ↔
      guess (.string s) ≠ .number ∧ ¬ (s = "true" ∨ s = "false")) := by
  have number := (guess_string_eq_number_iff s).trans (spellsNumber_iff_denoted s)
  refine ⟨number, number.trans (exists_congr fun l ↦ and_congr_right fun _ ↦ ?_), ?_, ?_⟩
  · rw [← l.isSome_nearest_iff, Option.isSome_iff_exists]
  · rw [guess]
    by_cases truth : s = "true" ∨ s = "false"
    · rw [spellsNumber_of_truth truth, if_pos truth]
      exact iff_of_true rfl truth
    · rw [if_neg truth]
      refine iff_of_false ?_ truth
      split_ifs <;> decide
  · rw [guess]
    split_ifs <;> simp_all

/-- Digits on either side of the point, a large exponent of zero, and literals on either side of
the bound; then a dangling exponent and a word. -/
example : [" -.5E+3\u00a0", "5.", "0e999999999", "1.7976931348623158e308",
      "1.7976931348623159e308", "1e", "inf"].map (fun s ↦ guess (.string s)) =
    [.number, .number, .number, .number, .string, .string, .string] := by
  decide +kernel

end ScalarKind

end Toolsmith
