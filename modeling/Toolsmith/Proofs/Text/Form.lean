import Toolsmith.Proofs.Text.Percent

/-!
# Names and values of forms

In a name or value of a form, plus signs are spaces, percent signs lead in bytes, and the bytes are
those of a text in UTF-8. What is encoded is read as what it was. As the encoding is a text of a few
characters, neither ampersands nor equals signs among them, a name or value can be told from what
stands around it.

## Main definitions

* `Text.formText?`: what a name or value is read as.
* `Text.isFormChar`: the characters of encoded names and values.

## Main statements

* `Text.formText?_encodeForm`: an encoded name or value is read as what it was.
* `Text.notMem_encodeForm`: the characters that do not stand in one.
-/

namespace Toolsmith.Text

/-- The text that stands as a name or value; none where its bytes are not those of a text. -/
def formText? (cs : List Char) : Option String :=
  String.fromUTF8? (percentDecode (cs.map fun c ↦ if c = '+' then ' ' else c)).toByteArray

theorem fromUTF8?_utf8 (cs : List Char) :
    String.fromUTF8? (utf8 cs).toByteArray = some (String.ofList cs) := by
  have bytes : (utf8 cs).toByteArray = (String.ofList cs).toByteArray :=
    String.toByteArray_ofList.symm
  rw [bytes, String.fromUTF8?, dif_pos (String.ofList cs).isValidUTF8]
  rfl

/-- Whether a character stands in an encoded name or value. -/
def isFormChar (c : Char) : Bool :=
  isComponentChar c || c = '*' || c = '+'

theorem isFormChar_of_mem_encodeFormChar {c d : Char} (h : d ∈ encodeFormChar c) :
    isFormChar d = true := by
  rw [encodeFormChar] at h
  split at h
  next plain =>
    rw [List.mem_singleton.1 h]
    simp only [isFormPlain, Bool.or_eq_true] at plain
    simp only [isFormChar, isComponentChar, isUnreserved, Bool.or_eq_true]
    tauto
  next =>
    split at h
    next =>
      rw [List.mem_singleton.1 h]
      decide
    next => simp only [isFormChar, isComponentChar_of_mem_percentChar h, Bool.true_or]

theorem isFormChar_of_mem_encodeForm {cs : List Char} {d : Char} (h : d ∈ encodeForm cs) :
    isFormChar d = true := by
  obtain ⟨c, -, hc⟩ := List.mem_flatMap.1 h
  exact isFormChar_of_mem_encodeFormChar hc

/-- A separator does not stand in an encoded name or value. -/
theorem notMem_encodeForm {d : Char} (h : isFormChar d = false) (cs : List Char) :
    d ∉ encodeForm cs := by
  intro hd
  rw [isFormChar_of_mem_encodeForm hd] at h
  cases h

/-- The plus signs of an encoded name or value are spaces, which then stand for themselves. -/
theorem map_encodeForm (cs : List Char) :
    ((encodeForm cs).map fun c ↦ if c = '+' then ' ' else c) =
      percentEncode (fun c ↦ isFormPlain c || c = ' ') cs := by
  rw [encodeForm, percentEncode, List.map_flatMap]
  refine List.flatMap_congr fun c _ ↦ ?_
  rw [encodeFormChar]
  by_cases plain : isFormPlain c = true
  · have other : c ≠ '+' := by
      rintro rfl
      exact absurd plain (by decide)
    rw [if_pos plain, if_pos (by rw [plain, Bool.true_or]), List.map_singleton, if_neg other]
  by_cases space : c = ' '
  · subst space
    rfl
  have written : ¬ (isFormPlain c || decide (c = ' ')) = true := by
    rw [Bool.or_eq_true, decide_eq_true_eq]
    exact not_or.2 ⟨plain, space⟩
  rw [if_neg plain, if_neg space, if_neg written]
  refine (List.map_congr_left fun d hd ↦ if_neg ?_).trans (List.map_id _)
  rintro rfl
  exact absurd (isComponentChar_of_mem_percentChar hd) (by decide)

theorem formText?_encodeForm (s : String) : formText? (encodeForm s.toList) = some s := by
  rw [formText?, map_encodeForm, percentDecode_percentEncode (by decide), fromUTF8?_utf8,
    String.ofList_toList]

end Toolsmith.Text
