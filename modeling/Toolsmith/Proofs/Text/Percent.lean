import Mathlib.Data.List.Basic
import Mathlib.Tactic.IntervalCases
import Toolsmith.Proofs.Text.Bytes
import Toolsmith.Text.Percent

/-!
# What percent encoding keeps

Decoding undoes every encoding that does not keep the percent sign: a byte is read back from its
two digits, and a kept character from itself.

The encoding of a component is a text of unreserved characters and percent signs. This is all
that a reader of URLs has to know about it.

## Main definitions

* `Text.isComponentChar`: the characters of encoded components.

## Main statements

* `Text.percentDecode_percentEncode`: decoding undoes encoding.
* `Text.isComponentChar_of_mem_encodeComponent`: the characters of an encoded component.
-/

namespace Toolsmith.Text

/-! ### Digits -/

/-- A digit is read back. -/
theorem hexValue?_upperHexDigit {n : Nat} (h : n < 16) : hexValue? (upperHexDigit n) = some n := by
  interval_cases n <;> decide

/-- A byte is read back from its two digits. -/
theorem hexByte?_upperHexDigit (b : UInt8) :
    hexByte? (upperHexDigit (b.toNat / 16)) (upperHexDigit (b.toNat % 16)) = some b := by
  have size : b.toNat < 256 := b.toNat_lt
  have high : hexValue? (upperHexDigit (b.toNat / 16)) = some (b.toNat / 16) :=
    hexValue?_upperHexDigit (by omega)
  have low : hexValue? (upperHexDigit (b.toNat % 16)) = some (b.toNat % 16) :=
    hexValue?_upperHexDigit (by omega)
  have whole : b.toNat / 16 * 16 + b.toNat % 16 = b.toNat := by omega
  rw [hexByte?, high, low]
  show some (UInt8.ofNat (b.toNat / 16 * 16 + b.toNat % 16)) = some b
  rw [whole, UInt8.ofNat_toNat]

/-! ### Decoding -/

/-- A character that is no percent sign stands for itself. -/
theorem percentDecode_cons {c : Char} (h : c ≠ '%') (cs : List Char) :
    percentDecode (c :: cs) = String.utf8EncodeChar c ++ percentDecode cs := by
  rw [percentDecode]
  rintro a b rest rfl
  exact absurd rfl h

/-- An encoded byte is decoded. -/
theorem percentDecode_percentByte (b : UInt8) (cs : List Char) :
    percentDecode (percentByte b ++ cs) = b :: percentDecode cs := by
  show percentDecode ('%' :: _ :: _ :: cs) = _
  rw [percentDecode, hexByte?_upperHexDigit]

/-- Encoded bytes are decoded one by one. -/
theorem percentDecode_percentBytes (bs : List UInt8) (cs : List Char) :
    percentDecode (bs.flatMap percentByte ++ cs) = bs ++ percentDecode cs := by
  induction bs with
  | nil => rfl
  | cons b bs ih =>
    rw [List.flatMap_cons, List.append_assoc, percentDecode_percentByte, ih, List.cons_append]

/-- Decoding undoes encoding. -/
theorem percentDecode_percentEncode {keep : Char → Bool} (h : keep '%' = false)
    (cs : List Char) : percentDecode (percentEncode keep cs) = utf8 cs := by
  induction cs with
  | nil => rfl
  | cons c cs ih =>
    have rest : percentEncode keep (c :: cs) =
        (if keep c then [c] else percentChar c) ++ percentEncode keep cs := List.flatMap_cons
    have bytes : utf8 (c :: cs) = String.utf8EncodeChar c ++ utf8 cs := List.flatMap_cons
    rw [rest, bytes, ← ih]
    by_cases kept : keep c = true
    · have other : c ≠ '%' := by
        rintro rfl
        rw [h] at kept
        exact Bool.false_ne_true kept
      rw [if_pos kept]
      exact percentDecode_cons other _
    · rw [if_neg kept]
      exact percentDecode_percentBytes _ _

/-- A text whose characters are all kept is its own encoding. -/
theorem percentEncode_eq_self {keep : Char → Bool} {cs : List Char}
    (h : ∀ c ∈ cs, keep c = true) : percentEncode keep cs = cs := by
  induction cs with
  | nil => rfl
  | cons c cs ih =>
    have rest : percentEncode keep cs = cs := ih fun d hd ↦ h d (List.mem_cons_of_mem _ hd)
    show (if keep c then [c] else percentChar c) ++ percentEncode keep cs = c :: cs
    rw [rest, if_pos (h c List.mem_cons_self)]
    rfl

/-! ### Components -/

/-- The encoding of a component is decoded to its bytes. -/
theorem percentDecode_encodeComponent (cs : List Char) :
    percentDecode (encodeComponent cs) = utf8 cs :=
  percentDecode_percentEncode (by decide) cs

/-- Whether a character may stand in an encoded component. -/
def isComponentChar (c : Char) : Bool :=
  isUnreserved c || c = '%'

theorem isUnreserved_upperHexDigit {n : Nat} (h : n < 16) :
    isUnreserved (upperHexDigit n) = true := by
  interval_cases n <;> decide

/-- An encoded byte is made of characters of components. -/
theorem isComponentChar_of_mem_percentByte {b : UInt8} {c : Char} (h : c ∈ percentByte b) :
    isComponentChar c = true := by
  have size : b.toNat < 256 := b.toNat_lt
  rw [isComponentChar, Bool.or_eq_true]
  rcases List.mem_cons.1 h with rfl | h
  · exact Or.inr (by decide)
  rcases List.mem_cons.1 h with rfl | h
  · exact Or.inl (isUnreserved_upperHexDigit (by omega))
  rw [List.mem_singleton] at h
  subst h
  exact Or.inl (isUnreserved_upperHexDigit (by omega))

theorem isComponentChar_of_mem_percentChar {c d : Char} (h : d ∈ percentChar c) :
    isComponentChar d = true := by
  obtain ⟨b, -, hb⟩ := List.mem_flatMap.1 h
  exact isComponentChar_of_mem_percentByte hb

/-- An encoded component has unreserved characters and percent signs only. -/
theorem isComponentChar_of_mem_encodeComponent {cs : List Char} {c : Char}
    (h : c ∈ encodeComponent cs) : isComponentChar c = true := by
  obtain ⟨d, -, hd⟩ := List.mem_flatMap.1 h
  by_cases kept : isUnreserved d = true
  · rw [if_pos kept, List.mem_singleton] at hd
    subst hd
    rw [isComponentChar, kept, Bool.true_or]
  · rw [if_neg kept] at hd
    exact isComponentChar_of_mem_percentChar hd

/-- Letters and digits are printed characters. -/
theorem toNat_of_isAlphanum {c : Char} (h : c.isAlphanum = true) :
    0x20 < c.toNat ∧ c.toNat < 0x7F := by
  -- The three ranges are read off by evaluation, as `Char` has no lemmas for its letters.
  have ranges : (decide (65 ≤ c.val ∧ c.val ≤ 90) || (97 ≤ c.val && c.val ≤ 122) ||
      (48 ≤ c.val && c.val ≤ 57)) = true := h
  have value : c.toNat = c.val.toNat := rfl
  simp only [Bool.or_eq_true, Bool.and_eq_true, decide_eq_true_eq, UInt32.le_iff_toNat_le,
    UInt32.reduceToNat] at ranges
  omega

/-- Characters of encoded components are visible and in ASCII. -/
theorem toNat_of_isComponentChar {c : Char} (h : isComponentChar c = true) :
    0x20 < c.toNat ∧ c.toNat < 0x7F := by
  simp only [isComponentChar, isUnreserved, Bool.or_eq_true, decide_eq_true_eq] at h
  rcases h with ((((h | h) | h) | h) | h) | h
  · exact toNat_of_isAlphanum h
  all_goals
    subst h
    decide

end Toolsmith.Text
