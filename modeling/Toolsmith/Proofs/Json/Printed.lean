import Mathlib.Tactic.SplitIfs
import Toolsmith.Proofs.Json.Lexeme

/-!
# JSON text on one line

The compact text of a value stands on one line, whatever texts the value holds: numbers are spelled
with digits, signs, points and exponents, and strings escape every control character. So the text
can be sent as a line of its own.

## Main definitions

* `InLine`: characters that leave the line they stand on alone.

## Main statements

* `Value.inLine_write`: the compact text has no control character.
* `Value.notMem_compact`: it has no line feed and no carriage return, in particular.
-/

namespace Toolsmith.Json

/-- Characters none of which is a control character of ASCII below the blank. -/
def InLine (cs : List Char) : Prop :=
  ∀ c ∈ cs, 0x20 ≤ c.toNat

@[simp] theorem inLine_nil : InLine [] :=
  fun _ h ↦ absurd h List.not_mem_nil

@[simp] theorem inLine_cons {c : Char} {cs : List Char} :
    InLine (c :: cs) ↔ 0x20 ≤ c.toNat ∧ InLine cs :=
  List.forall_mem_cons

@[simp] theorem inLine_append {cs ds : List Char} :
    InLine (cs ++ ds) ↔ InLine cs ∧ InLine ds :=
  List.forall_mem_append

/-- A part of what fits a line fits it as well. -/
theorem InLine.of_subset {cs ds : List Char} (h : InLine ds) (sub : cs ⊆ ds) : InLine cs :=
  fun c hc ↦ h c (sub hc)

/-- A character that leaves the line alone is no line feed and no carriage return. -/
theorem InLine.notMem {cs : List Char} (h : InLine cs) : '\n' ∉ cs ∧ '\r' ∉ cs :=
  ⟨fun hc ↦ absurd (h _ hc) (by decide), fun hc ↦ absurd (h _ hc) (by decide)⟩

/-! ### Numbers -/

/-- The digits of a number fit a line. -/
theorem inLine_toDigits (n : Nat) : InLine (Nat.toDigits 10 n) := by
  intro c hc
  have digit : c.isDigit = true := Nat.isDigit_of_mem_toDigits (by decide) (by decide) hc
  have low : 48 ≤ c.toNat := by
    simp only [Char.isDigit, Bool.and_eq_true, decide_eq_true_eq] at digit
    exact UInt32.le_iff_toNat_le.1 digit.1
  omega

theorem inLine_replicate {c : Char} (h : 0x20 ≤ c.toNat) (n : Nat) :
    InLine (List.replicate n c) :=
  fun d hd ↦ by rwa [List.eq_of_mem_replicate hd]

/-- Digits keep the line wherever the point stands and whether or not there is an exponent. -/
theorem inLine_layout {digits : List Char} (h : InLine digits) (e : Int) :
    InLine (Binary64.layout digits e) := by
  have head (n : Nat) : InLine (digits.take n) := h.of_subset (List.take_subset n digits)
  have tail (n : Nat) : InLine (digits.drop n) := h.of_subset (List.drop_subset n digits)
  have zeros (n : Nat) : InLine (List.replicate n '0') := inLine_replicate (by decide) n
  have padded (n : Nat) : InLine (digits ++ List.replicate n '0') := inLine_append.2 ⟨h, zeros n⟩
  rw [Binary64.layout]
  split
  · have fraction : InLine (if (digits.drop 1).isEmpty then [] else '.' :: digits.drop 1) := by
      split_ifs
      · exact inLine_nil
      · exact inLine_cons.2 ⟨by decide, tail 1⟩
    have sign : 0x20 ≤ (if e < 0 then '-' else '+').toNat := by split_ifs <;> decide
    exact inLine_append.2 ⟨inLine_append.2 ⟨head 1, fraction⟩,
      inLine_cons.2 ⟨by decide, inLine_cons.2 ⟨sign, inLine_toDigits _⟩⟩⟩
  split
  · exact inLine_cons.2 ⟨by decide, inLine_cons.2 ⟨by decide, inLine_append.2 ⟨zeros _, h⟩⟩⟩
  · refine inLine_append.2 ⟨(padded _).of_subset (List.take_subset ..),
      inLine_cons.2 ⟨by decide, ?_⟩⟩
    split_ifs
    · exact inLine_cons.2 ⟨by decide, inLine_nil⟩
    · exact (padded _).of_subset (List.drop_subset ..)

/-- The text of a number fits a line. -/
theorem Number.inLine_text (n : Number) : InLine n.text := by
  cases n with
  | integer n =>
    rw [text, integerText]
    split_ifs
    · exact inLine_cons.2 ⟨by decide, inLine_toDigits _⟩
    · exact inLine_toDigits _
  | double x =>
    rw [text, Binary64.text, inLine_append]
    refine ⟨?_, inLine_layout (inLine_toDigits _) _⟩
    split_ifs
    · exact inLine_cons.2 ⟨by decide, inLine_nil⟩
    · exact inLine_nil

/-! ### Strings -/

/-- What can stand after a backslash is no control character. -/
theorem le_toNat_of_unescape? {e c : Char} (h : unescape? e = some c) : 0x20 ≤ e.toNat := by
  unfold unescape? at h
  split_ifs at h with same
  · rcases same with rfl | rfl | rfl <;> decide
  all_goals subst e; decide

/-- A character that is escaped fits a line. -/
theorem inLine_escape (c : Char) : InLine (escape c) := by
  have digit : ∀ n < 16, 0x20 ≤ (Nat.digitChar n).toNat := by decide
  rcases escape_cases c with ⟨e, he, -, hc⟩ | ⟨small, he⟩ | ⟨-, -, large, he⟩
  · rw [he]
    exact inLine_cons.2 ⟨by decide, inLine_cons.2 ⟨le_toNat_of_unescape? hc, inLine_nil⟩⟩
  · have high := digit (c.toNat / 16) (by omega)
    have low := digit (c.toNat % 16) (by omega)
    simp [he, high, low]
  · rw [he]
    exact inLine_cons.2 ⟨Nat.le_of_not_lt large, inLine_nil⟩

/-- So does a string. -/
theorem inLine_writeString (s : String) : InLine (writeString s) := by
  have escaped : InLine (s.toList.flatMap escape) := fun c hc ↦ by
    obtain ⟨d, -, hd⟩ := List.mem_flatMap.1 hc
    exact inLine_escape d c hd
  rw [writeString, inLine_cons, inLine_append, inLine_cons]
  exact ⟨by decide, escaped, by decide, inLine_nil⟩

/-! ### Values -/

namespace Value

mutual
/-- The compact text of a value has no control character. -/
theorem inLine_write (level : Nat) : ∀ v : Value, InLine (v.write .compact level)
  | .null | .bool true | .bool false | .array [] | .object [] => by simp [write]
  | .number n => n.inLine_text
  | .string s => inLine_writeString s
  | .array (x :: xs) => by
    simp [write, Layout.lineBreak, inLine_write (level + 1) x, inLine_writeItems level xs]
  | .object ((k, x) :: ms) => by
    simp [write, Layout.lineBreak, Layout.colon, inLine_writeString k,
      inLine_write (level + 1) x, inLine_writeMembers level ms]

/-- Items that are written compactly fit a line. -/
theorem inLine_writeItems (level : Nat) : ∀ xs : List Value,
    InLine (writeItems .compact level xs)
  | [] => by simp [writeItems, Layout.lineBreak]
  | x :: xs => by
    simp [writeItems, Layout.lineBreak, inLine_write (level + 1) x, inLine_writeItems level xs]

/-- So do members. -/
theorem inLine_writeMembers (level : Nat) : ∀ ms : List (String × Value),
    InLine (writeMembers .compact level ms)
  | [] => by simp [writeMembers, Layout.lineBreak]
  | (k, x) :: ms => by
    simp [writeMembers, Layout.lineBreak, Layout.colon, inLine_writeString k,
      inLine_write (level + 1) x, inLine_writeMembers level ms]
end

/-- The compact text of a value is a single line. -/
theorem notMem_compact (v : Value) : '\n' ∉ v.compact.toList ∧ '\r' ∉ v.compact.toList := by
  rw [compact, String.toList_ofList]
  exact (inLine_write 0 v).notMem

end Value

end Toolsmith.Json
