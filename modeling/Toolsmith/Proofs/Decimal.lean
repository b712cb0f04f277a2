import Mathlib.Algebra.Order.Field.Rat
import Mathlib.Data.List.TakeWhile
import Mathlib.Tactic.NormNum
import Mathlib.Tactic.Positivity
import Toolsmith.Decimal
import Toolsmith.Proofs.Binary64

/-!
# The numbers that literals spell

A literal is put together from its parts: a sign that may be left out, digits with a point that may
stand anywhere among them or be left out, and an exponent that may be left out. The reader accepts
these texts and no others, and it finds the parts that a text was put together from.

A literal spells a rational number, which is finite as a binary64 number if its absolute value is
less than `2 ^ 1024 - 2 ^ 970`. The reader tells most of these numbers by how many digits they have;
this agrees with the comparison, as a power of ten lies between on either side.

## Main definitions

* `Decimal.Literal`: a literal in parts, with its text and its value.

## Main statements

* `Decimal.ofChars?_eq_some_iff`: the texts that are read as a decimal.
* `Decimal.isFinite_iff`: the decimals that are finite.
* `Decimal.exists_isFinite_iff`: the texts of finite literals.
-/

namespace Toolsmith.Decimal

open Json (isDigit)

/-! ### Literals -/

/-- A sign that may be left out. -/
inductive Sign where
  | none
  | plus
  | minus

namespace Sign

/-- The text of a sign. -/
def text : Sign → List Char
  | .none => []
  | .plus => ['+']
  | .minus => ['-']

/-- Whether the sign is a minus. -/
def isMinus : Sign → Bool
  | .minus => true
  | _ => false

end Sign

/-- The exponent of a literal. -/
structure Scale where
  /-- The letter that leads it in. -/
  letter : Char
  /-- Its sign. -/
  sign : Sign
  /-- Its digits. -/
  digits : List Char
  /-- The letter is an e. -/
  isLetter : letter = 'e' ∨ letter = 'E'
  /-- There are digits. -/
  ne : digits ≠ []
  /-- Nothing else stands among them. -/
  isDigits : ∀ c ∈ digits, isDigit c = true

namespace Scale

/-- The text of an exponent. -/
def text (s : Scale) : List Char :=
  s.letter :: (s.sign.text ++ s.digits)

/-- The exponent. -/
def exponent (s : Scale) : Int :=
  if s.sign.isMinus then -(ofDigits s.digits : Int) else ofDigits s.digits

end Scale

/-- A literal in parts. -/
structure Literal where
  /-- Its sign. -/
  sign : Sign
  /-- The digits before the point. -/
  whole : List Char
  /-- The digits behind the point, where there is one. -/
  fraction : Option (List Char)
  /-- Its exponent. -/
  scale : Option Scale
  /-- There are digits on one side of the point. -/
  ne : whole ++ fraction.getD [] ≠ []
  /-- Nothing else stands among them. -/
  isDigits : ∀ c ∈ whole ++ fraction.getD [], isDigit c = true

/-- The text of what may stand behind the digits before the point. -/
def fractionText (fraction : Option (List Char)) : List Char :=
  fraction.elim [] fun digits ↦ '.' :: digits

namespace Literal

/-- The text of a literal. -/
def text (l : Literal) : List Char :=
  l.sign.text ++ (l.whole ++ (fractionText l.fraction ++ l.scale.elim [] Scale.text))

/-- The absolute value of a literal. -/
def magnitude (l : Literal) : Decimal :=
  ⟨ofDigits (l.whole ++ l.fraction.getD []),
    l.scale.elim 0 Scale.exponent - (l.fraction.getD []).length⟩

end Literal

/-! ### Parts of a text -/

variable {cs ds rest : List Char}

/-- The sign of a literal is split off, as long as no second one follows. -/
theorem splitSign_append (s : Sign) (h : ∀ c ∈ cs.head?, c ≠ '+' ∧ c ≠ '-') :
    splitSign (s.text ++ cs) = (s.isMinus, cs) := by
  cases s with
  | none =>
    show splitSign cs = (false, cs)
    unfold splitSign
    split
    next => exact absurd rfl (h '-' rfl).2
    next => exact absurd rfl (h '+' rfl).1
    next => rfl
  | plus => rfl
  | minus => rfl

/-- What is split off as a sign is one. -/
theorem exists_sign (cs : List Char) :
    ∃ s : Sign, cs = s.text ++ (splitSign cs).2 ∧ s.isMinus = (splitSign cs).1 := by
  unfold splitSign
  split
  · exact ⟨.minus, rfl, rfl⟩
  · exact ⟨.plus, rfl, rfl⟩
  · exact ⟨.none, rfl, rfl⟩

theorem takeWhile_isDigit (digits : ∀ c ∈ ds, isDigit c = true)
    (stop : ∀ c ∈ rest.head?, isDigit c = false) :
    (ds ++ rest).takeWhile isDigit = ds ∧ (ds ++ rest).dropWhile isDigit = rest := by
  rw [List.takeWhile_append_of_pos digits, List.dropWhile_append_of_pos digits]
  cases rest with
  | nil => exact ⟨List.append_nil ds, rfl⟩
  | cons c rest =>
    have other : ¬ isDigit c = true := Bool.eq_false_iff.1 (stop c rfl)
    rw [List.takeWhile_cons_of_neg other, List.dropWhile_cons_of_neg other, List.append_nil]
    exact ⟨rfl, rfl⟩

/-- The digits behind the point that a text begins with, and what follows them. -/
def splitFraction : List Char → List Char × List Char
  | '.' :: cs => (cs.takeWhile isDigit, cs.dropWhile isDigit)
  | cs => ([], cs)

/-- The fraction of a literal is split off up to the first character that does not belong to it. -/
theorem splitFraction_append {fraction : Option (List Char)}
    (digits : ∀ c ∈ fraction.getD [], isDigit c = true)
    (stop : ∀ c ∈ rest.head?, isDigit c = false ∧ c ≠ '.') :
    splitFraction (fractionText fraction ++ rest) = (fraction.getD [], rest) := by
  cases fraction with
  | none =>
    show splitFraction rest = ([], rest)
    unfold splitFraction
    split
    next => exact absurd rfl (stop '.' rfl).2
    next => rfl
  | some ds =>
    obtain ⟨taken, left⟩ := takeWhile_isDigit digits fun c hc ↦ (stop c hc).1
    exact congrArg₂ Prod.mk taken left

/-- What is split off as a fraction is one. -/
theorem exists_fraction (cs : List Char) :
    ∃ fraction, cs = fractionText fraction ++ (splitFraction cs).2 ∧
      fraction.getD [] = (splitFraction cs).1 ∧ ∀ c ∈ fraction.getD [], isDigit c = true := by
  unfold splitFraction
  split
  next cs =>
    refine ⟨some (cs.takeWhile isDigit), ?_, rfl, fun c hc ↦ List.mem_takeWhile_imp hc⟩
    exact congrArg ('.' :: ·) List.takeWhile_append_dropWhile.symm
  next => exact ⟨none, rfl, rfl, nofun⟩

/-- A digit is no sign. -/
theorem isDigit_ne {c : Char} (h : isDigit c = true) : c ≠ '+' ∧ c ≠ '-' := by
  constructor <;>
  · rintro rfl
    exact absurd h (by decide)

/-! ### Exponents -/

/-- The exponent of a scale is read from its text. -/
theorem exponent?_text (scale : Option Scale) :
    exponent? (scale.elim [] Scale.text) = some (scale.elim 0 Scale.exponent) := by
  cases scale with
  | none => rfl
  | some s =>
    have first : ∀ c ∈ s.digits.head?, c ≠ '+' ∧ c ≠ '-' := fun c hc ↦
      isDigit_ne (s.isDigits c (List.mem_of_mem_head? hc))
    have valid : s.digits ≠ [] ∧ s.digits.all isDigit = true :=
      ⟨s.ne, List.all_eq_true.2 s.isDigits⟩
    show exponent? (s.letter :: (s.sign.text ++ s.digits)) = some s.exponent
    rw [exponent?, if_pos s.isLetter, splitSign_append s.sign first]
    exact if_pos valid

/-- An exponent is read from the text of a scale only. -/
theorem exists_scale {e : Int} (h : exponent? cs = some e) :
    ∃ scale : Option Scale, scale.elim [] Scale.text = cs ∧ scale.elim 0 Scale.exponent = e := by
  cases cs with
  | nil =>
    cases h
    exact ⟨none, rfl, rfl⟩
  | cons c cs =>
    rw [exponent?] at h
    split at h
    next letter =>
      obtain ⟨s, split, minus⟩ := exists_sign cs
      simp only at h
      split at h
      next valid =>
        obtain ⟨ne, digits⟩ := valid
        cases h
        refine ⟨some ⟨c, s, _, letter, ne, List.all_eq_true.1 digits⟩, ?_, ?_⟩
        · exact congrArg (c :: ·) split.symm
        · rw [← minus]
          rfl
      next => cases h
    next => cases h

/-! ### Whole texts -/

/-- A decimal is read from its sign, its digits, its fraction and its exponent one after the
other. -/
theorem ofChars?_eq (cs : List Char) :
    ofChars? cs =
      let whole := (splitSign cs).2.takeWhile isDigit
      let fraction := splitFraction ((splitSign cs).2.dropWhile isDigit)
      if whole ++ fraction.1 = [] then none
      else (exponent? fraction.2).map fun e ↦
        ⟨ofDigits (whole ++ fraction.1), e - fraction.1.length⟩ :=
  rfl

/-- An exponent begins with neither a digit nor a point nor a sign. -/
theorem head_scale (scale : Option Scale) {c : Char}
    (h : c ∈ (scale.elim [] Scale.text).head?) :
    isDigit c = false ∧ c ≠ '.' ∧ c ≠ '+' ∧ c ≠ '-' := by
  cases scale with
  | none => cases h
  | some s =>
    obtain rfl : s.letter = c := Option.some.inj h
    rcases s.isLetter with letter | letter <;>
    · rw [letter]
      decide

/-- A literal is read as its magnitude. -/
theorem ofChars?_text (l : Literal) : ofChars? l.text = some l.magnitude := by
  obtain ⟨sign, whole, fraction, scale, ne, digits⟩ := l
  obtain ⟨before, behind⟩ := List.forall_mem_append.1 digits
  -- what follows the digits before the point, and what follows the sign
  have rest : ∀ c ∈ (fractionText fraction ++ scale.elim [] Scale.text).head?,
      isDigit c = false ∧ c ≠ '+' ∧ c ≠ '-' := by
    intro c hc
    cases fraction with
    | none =>
      obtain ⟨digit, -, sign⟩ := head_scale scale hc
      exact ⟨digit, sign⟩
    | some =>
      cases hc
      decide
  have body : ∀ c ∈ (whole ++ (fractionText fraction ++ scale.elim [] Scale.text)).head?,
      c ≠ '+' ∧ c ≠ '-' := by
    intro c hc
    cases whole with
    | nil => exact (rest c hc).2
    | cons d whole =>
      cases hc
      exact isDigit_ne (before c List.mem_cons_self)
  obtain ⟨taken, left⟩ := takeWhile_isDigit before fun c hc ↦ (rest c hc).1
  rw [ofChars?_eq, Literal.text, splitSign_append sign body]
  simp only [taken, left]
  rw [splitFraction_append behind fun c hc ↦ ⟨(head_scale scale hc).1, (head_scale scale hc).2.1⟩,
    if_neg ne, exponent?_text]
  rfl

/-- Nothing but literals is read. -/
theorem exists_literal {x : Decimal} (h : ofChars? cs = some x) :
    ∃ l : Literal, l.text = cs ∧ l.magnitude = x := by
  rw [ofChars?_eq] at h
  obtain ⟨sign, signed, -⟩ := exists_sign cs
  obtain ⟨fraction, pointed, digits, behind⟩ :=
    exists_fraction ((splitSign cs).2.dropWhile isDigit)
  simp only at h
  split at h
  next => cases h
  next ne =>
    obtain ⟨e, he, rfl⟩ := Option.map_eq_some_iff.1 h
    obtain ⟨scale, scaled, rfl⟩ := exists_scale he
    have before : ∀ c ∈ (splitSign cs).2.takeWhile isDigit, isDigit c = true :=
      fun c hc ↦ List.mem_takeWhile_imp hc
    rw [← digits] at ne ⊢
    refine ⟨⟨sign, _, fraction, scale, ne, List.forall_mem_append.2 ⟨before, behind⟩⟩, ?_, rfl⟩
    rw [Literal.text, scaled, ← pointed, List.takeWhile_append_dropWhile, ← signed]

/-- The texts that are read as a decimal are those of literals. -/
theorem ofChars?_eq_some_iff {x : Decimal} :
    ofChars? cs = some x ↔ ∃ l : Literal, l.text = cs ∧ l.magnitude = x := by
  refine ⟨exists_literal, ?_⟩
  rintro ⟨l, rfl, rfl⟩
  exact ofChars?_text l

/-! ### Values -/

/-- The rational number that a decimal stands for. -/
def value (x : Decimal) : ℚ :=
  x.significand * 10 ^ x.exponent

/-- The rational number that a literal spells. -/
def Literal.value (l : Literal) : ℚ :=
  if l.sign.isMinus then -l.magnitude.value else l.magnitude.value

/-- A power of ten with a natural exponent is that of the natural numbers. -/
theorem ten_zpow_natCast (n : ℕ) : (10 : ℚ) ^ (n : ℤ) = Nat.pow 10 n :=
  (zpow_natCast 10 n).trans (Nat.cast_pow 10 n).symm

theorem zpow_le_cast {e : Int} {n k : ℕ} (h : e ≤ n) (below : Nat.pow 10 n ≤ k) :
    (10 : ℚ) ^ e ≤ k := by
  have step : (10 : ℚ) ^ e ≤ 10 ^ (n : ℤ) := zpow_le_zpow_right₀ (by norm_num) h
  rw [ten_zpow_natCast] at step
  exact step.trans (Nat.cast_le.2 below)

theorem cast_le_zpow {e : Int} {n k : ℕ} (h : n ≤ e) (above : k ≤ Nat.pow 10 n) :
    (k : ℚ) ≤ 10 ^ e := by
  have step : (10 : ℚ) ^ (n : ℤ) ≤ 10 ^ e := zpow_le_zpow_right₀ (by norm_num) h
  rw [ten_zpow_natCast] at step
  exact (Nat.cast_le.2 above).trans step

/-- A power of ten of 308 and less is below the bound. -/
theorem zpow_le_overflowBound {e : Int} (h : e ≤ 308) : (10 : ℚ) ^ e ≤ overflowBound :=
  zpow_le_cast (n := 308) h (by decide +kernel)

/-- A power of ten of 310 and more is above the bound. -/
theorem overflowBound_le_zpow {e : Int} (h : 310 ≤ e) : (overflowBound : ℚ) ≤ 10 ^ e :=
  cast_le_zpow (n := 310) h (by decide +kernel)

/-- A significand lies between the powers of ten that its digits tell. -/
theorem significand_bounds {n : Nat} (h : n ≠ 0) :
    10 ^ ((Nat.toDigits 10 n).length - 1) ≤ n ∧ n < 10 ^ (Nat.toDigits 10 n).length := by
  have pos : 0 < (Nat.toDigits 10 n).length := Nat.length_toDigits_pos
  have above := (Nat.length_toDigits_le_iff (b := 10) (n := n) (by decide) pos).1 le_rfl
  refine ⟨?_, above⟩
  by_cases one : (Nat.toDigits 10 n).length = 1
  · rw [one]
    exact Nat.one_le_iff_ne_zero.2 h
  · have fewer : ¬ (Nat.toDigits 10 n).length ≤ (Nat.toDigits 10 n).length - 1 := by omega
    rw [Nat.length_toDigits_le_iff (by decide) (by omega)] at fewer
    exact Nat.le_of_not_lt fewer

/-- A decimal lies between the powers of ten that its digits and its exponent tell. -/
theorem value_bounds {x : Decimal} (h : x.significand ≠ 0) :
    (10 : ℚ) ^ ((Nat.toDigits 10 x.significand).length + x.exponent - 1) ≤ x.value ∧
      x.value < (10 : ℚ) ^ ((Nat.toDigits 10 x.significand).length + x.exponent) := by
  obtain ⟨below, above⟩ := significand_bounds h
  have pos : 0 < (Nat.toDigits 10 x.significand).length := Nat.length_toDigits_pos
  have scale : (0 : ℚ) < 10 ^ x.exponent := zpow_pos (by norm_num) _
  have ten : (10 : ℚ) ≠ 0 := by norm_num
  constructor
  · have split : ((Nat.toDigits 10 x.significand).length + x.exponent - 1 : ℤ) =
        ((Nat.toDigits 10 x.significand).length - 1 : ℕ) + x.exponent := by omega
    rw [split, zpow_add₀ ten, zpow_natCast, value]
    exact mul_le_mul_of_nonneg_right (by exact_mod_cast below) scale.le
  · rw [zpow_add₀ ten, zpow_natCast, value]
    exact mul_lt_mul_of_pos_right (by exact_mod_cast above) scale

/-- A decimal is finite if it is less than the bound. -/
theorem isFinite_iff (x : Decimal) : x.isFinite = true ↔ x.value < overflowBound := by
  rw [isFinite]
  by_cases zero : x.significand = 0
  · have bound : (0 : ℚ) < overflowBound :=
      (zpow_pos (by norm_num) 0).trans_le (zpow_le_overflowBound (by decide))
    rw [if_pos zero, value, zero, Nat.cast_zero, zero_mul]
    exact iff_of_true rfl bound
  obtain ⟨below, above⟩ := value_bounds zero
  rw [if_neg zero]
  simp only
  split
  next small => exact iff_of_true rfl (above.trans_le (zpow_le_overflowBound small))
  split
  next large =>
    have far : (overflowBound : ℚ) ≤ x.value :=
      (overflowBound_le_zpow (Int.le_sub_one_of_lt large)).trans below
    exact iff_of_false Bool.false_ne_true (not_lt_of_ge far)
  next =>
    have pos : (0 : ℚ) < 10 ^ (-x.exponent).toNat := by positivity
    rw [decide_eq_true_eq, value, zpow_eq_div, mul_div_assoc', div_lt_iff₀ pos]
    exact_mod_cast Iff.rfl

/-! ### Finite literals -/

/-- The absolute value of a literal is that of its magnitude. -/
theorem Literal.abs_value (l : Literal) : |l.value| = l.magnitude.value := by
  have nonneg : 0 ≤ l.magnitude.value :=
    mul_nonneg (Nat.cast_nonneg _) (zpow_nonneg (by norm_num) _)
  rw [Literal.value]
  split
  · rw [abs_neg, abs_of_nonneg nonneg]
  · exact abs_of_nonneg nonneg

/-- The texts of finite literals are those that are read as a finite decimal. -/
theorem exists_isFinite_iff :
    (∃ x, ofChars? cs = some x ∧ x.isFinite = true) ↔
      ∃ l : Literal, l.text = cs ∧ |l.value| < overflowBound := by
  constructor
  · rintro ⟨x, read, finite⟩
    obtain ⟨l, rfl, rfl⟩ := ofChars?_eq_some_iff.1 read
    exact ⟨l, rfl, l.abs_value.trans_lt ((isFinite_iff _).1 finite)⟩
  · rintro ⟨l, rfl, small⟩
    exact ⟨l.magnitude, ofChars?_text l, (isFinite_iff _).2 (l.abs_value.symm.trans_lt small)⟩

end Toolsmith.Decimal
