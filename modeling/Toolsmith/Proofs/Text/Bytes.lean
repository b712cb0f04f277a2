import Mathlib.Data.List.Lex
import Mathlib.Data.String.Basic

/-!
# The bytes of texts

A text is given by its bytes, and texts are in the order of their bytes: of two characters the
smaller one has the smaller bytes, and these differ before either is at its end, so that nothing
after them counts.

## Main definitions

* `Text.utf8`: the bytes of a text.

## Main statements

* `Text.utf8_injective`: texts of the same bytes are the same.
* `Text.utf8_lt_iff`: a text is smaller than another one if and only if its bytes are.
-/

namespace Toolsmith.Text

/-- The bytes of a text. -/
def utf8 (cs : List Char) : List UInt8 :=
  cs.flatMap String.utf8EncodeChar

theorem utf8_injective : Function.Injective utf8 := by
  intro cs ds h
  have bytes : cs.utf8Encode = ds.utf8Encode := congrArg List.toByteArray h
  have strings : String.ofList cs = String.ofList ds := by
    rw [← String.toByteArray_inj, String.toByteArray_ofList, String.toByteArray_ofList, bytes]
  exact String.ofList_injective strings

/-- The bytes of a smaller character are smaller, whatever stands after them. -/
theorem utf8EncodeChar_append_lt {c d : Char} (lt : c < d) (xs ys : List UInt8) :
    String.utf8EncodeChar c ++ xs < String.utf8EncodeChar d ++ ys := by
  have lt' : c.val.toNat < d.val.toNat := lt
  have valid : d.val.toNat < 0x110000 := by
    rcases d.valid with h | h
    · exact lt_trans h (by decide)
    · exact h.2
  -- Characters of as many bytes differ in one of these, others already in the first one.
  fun_cases String.utf8EncodeChar c <;> fun_cases String.utf8EncodeChar d <;>
    simp only [List.cons_append, List.nil_append, List.cons_lt_cons_iff, UInt8.lt_iff_toNat_lt,
      ← UInt8.toNat_inj, UInt8.toNat_ofNat'] <;>
    simp (disch := omega) only [Nat.mod_eq_of_lt] <;> omega

theorem utf8_lt {cs ds : List Char} (lt : cs < ds) : utf8 cs < utf8 ds := by
  induction lt with
  | nil =>
    rename_i d ds
    obtain ⟨b, bs, first⟩ := List.exists_cons_of_ne_nil (@String.utf8EncodeChar_ne_nil d)
    rw [utf8, utf8, List.flatMap_cons, first]
    exact List.nil_lt_cons _ _
  | cons _ ih => exact List.append_left_lt ih
  | rel lt => exact utf8EncodeChar_append_lt lt _ _

/-- Texts are in the order of their bytes. -/
theorem utf8_lt_iff {s t : String} : utf8 s.toList < utf8 t.toList ↔ s < t := by
  refine ⟨fun lt ↦ ?_, utf8_lt⟩
  rcases lt_trichotomy s t with h | rfl | h
  · exact h
  · exact absurd lt (List.lt_irrefl _)
  · exact absurd (utf8_lt h) (List.lt_asymm lt)

end Toolsmith.Text
