import Toolsmith.Proofs.Decimal
import Toolsmith.Schema.Guess

/-!
# What is guessed from an example

The kind that is guessed from a value need not be the one that the value itself has: a text that
spells a number or a truth value is taken for what it spells, and null, arrays and objects are taken
for texts. So the values that have the kind that is guessed from them are the numbers, the truth
values, and the texts that spell neither.

## Main definitions

* `ScalarKind.SpellsFinite`: the texts that spell a finite number.
* `ScalarKind.FitsGuess`: the values of the kind that is guessed from them.

## Main statements

* `ScalarKind.spellsNumber_iff`: the texts that are taken for numbers.
* `ScalarKind.kind_eq_guess_iff`: the values that have the kind that is guessed from them.
-/

namespace Toolsmith

/-! ### Trimmed texts -/

namespace Text

variable {cs before after : List Char}

/-- A text is a trimmed text between blanks. -/
theorem exists_trimList (cs : List Char) :
    ∃ before after, cs = before ++ (trimList cs ++ after) ∧ (∀ c ∈ before, isBlank c = true) ∧
      ∀ c ∈ after, isBlank c = true := by
  let rest := cs.dropWhile isBlank
  have back : rest = trimEndList rest ++ (rest.reverse.takeWhile isBlank).reverse := by
    rw [trimEndList, ← List.reverse_append, List.takeWhile_append_dropWhile, List.reverse_reverse]
  refine ⟨cs.takeWhile isBlank, (rest.reverse.takeWhile isBlank).reverse, ?_,
    fun c hc ↦ List.mem_takeWhile_imp hc,
    fun c hc ↦ List.mem_takeWhile_imp (List.mem_reverse.1 hc)⟩
  show cs = _ ++ (trimEndList rest ++ _)
  rw [← back, List.takeWhile_append_dropWhile]

theorem dropWhile_isBlank (inside : ∀ c ∈ cs, isBlank c = false) : cs.dropWhile isBlank = cs :=
  List.dropWhile_eq_self_iff.2 fun hl ↦ Bool.eq_false_iff.1 (inside _ (List.getElem_mem hl))

theorem trimEndList_append (inside : ∀ c ∈ cs, isBlank c = false)
    (last : ∀ c ∈ after, isBlank c = true) : trimEndList (cs ++ after) = cs := by
  have blanks : ∀ c ∈ after.reverse, isBlank c = true := fun c hc ↦ last c (List.mem_reverse.1 hc)
  have kept : ∀ c ∈ cs.reverse, isBlank c = false := fun c hc ↦ inside c (List.mem_reverse.1 hc)
  rw [trimEndList, List.reverse_append, List.dropWhile_append_of_pos blanks,
    dropWhile_isBlank kept, List.reverse_reverse]

/-- A text without blanks is what is left of it between blanks. -/
theorem trimList_append (first : ∀ c ∈ before, isBlank c = true)
    (inside : ∀ c ∈ cs, isBlank c = false) (last : ∀ c ∈ after, isBlank c = true) :
    trimList (before ++ (cs ++ after)) = cs := by
  rw [trimList, List.dropWhile_append_of_pos first]
  cases cs with
  | nil =>
    rw [List.nil_append, List.dropWhile_eq_nil_iff.2 last]
    rfl
  | cons c cs =>
    have other : ¬ isBlank c = true := Bool.eq_false_iff.1 (inside c List.mem_cons_self)
    rw [List.cons_append, List.dropWhile_cons_of_neg other, ← List.cons_append,
      trimEndList_append inside last]

end Text

/-! ### Texts that spell a number -/

namespace Decimal

theorem isBlank_of_isDigit {c : Char} (h : Json.isDigit c = true) : Text.isBlank c = false := by
  have range : 48 ≤ c.toNat ∧ c.toNat ≤ 57 := by
    rw [Json.isDigit, Bool.and_eq_true, decide_eq_true_eq, decide_eq_true_eq] at h
    exact h
  simp only [Text.isBlank, Bool.or_eq_false_iff, Bool.and_eq_false_iff, decide_eq_false_iff_not,
    beq_eq_false_iff_ne]
  omega

theorem Sign.isBlank_of_mem_text {s : Sign} {c : Char} (h : c ∈ s.text) :
    Text.isBlank c = false := by
  cases s with
  | none => cases h
  | plus =>
    rw [List.mem_singleton.1 h]
    decide
  | minus =>
    rw [List.mem_singleton.1 h]
    decide

theorem Scale.isBlank_of_mem_text {s : Scale} {c : Char} (h : c ∈ s.text) :
    Text.isBlank c = false := by
  rcases List.mem_cons.1 h with rfl | h
  · rcases s.isLetter with letter | letter <;>
    · rw [letter]
      decide
  · rcases List.mem_append.1 h with h | h
    · exact Sign.isBlank_of_mem_text h
    · exact isBlank_of_isDigit (s.isDigits c h)

/-- No blank stands in a literal. -/
theorem Literal.isBlank_of_mem_text {l : Literal} {c : Char} (h : c ∈ l.text) :
    Text.isBlank c = false := by
  obtain ⟨sign, whole, fraction, scale, ne, digits⟩ := l
  obtain ⟨before, behind⟩ := List.forall_mem_append.1 digits
  simp only [text, List.mem_append] at h
  rcases h with h | h | h | h
  · exact Sign.isBlank_of_mem_text h
  · exact isBlank_of_isDigit (before c h)
  · cases fraction with
    | none => cases h
    | some ds =>
      rcases List.mem_cons.1 h with rfl | h
      · decide
      · exact isBlank_of_isDigit (behind c h)
  · cases scale with
    | none => cases h
    | some s => exact Scale.isBlank_of_mem_text h

end Decimal

namespace ScalarKind

open Json (Value)

/-- Whether a text spells a finite number: it is a literal between blanks, and its value does not
round to infinity. -/
def SpellsFinite (s : String) : Prop :=
  ∃ (l : Decimal.Literal) (before after : List Char), s.toList = before ++ (l.text ++ after) ∧
    (∀ c ∈ before, Text.isBlank c = true) ∧ (∀ c ∈ after, Text.isBlank c = true) ∧
    |l.value| < Decimal.overflowBound

/-- The texts that are taken for numbers are those that spell a finite number. -/
theorem spellsNumber_iff (s : String) : spellsNumber s = true ↔ SpellsFinite s := by
  have read : spellsNumber s = true ↔
      ∃ x, Decimal.ofChars? (Text.trimList s.toList) = some x ∧ x.isFinite = true := by
    rw [spellsNumber]
    cases Decimal.ofChars? (Text.trimList s.toList) <;> simp
  rw [read, Decimal.exists_isFinite_iff]
  constructor
  · rintro ⟨l, text, small⟩
    obtain ⟨before, after, split, first, last⟩ := Text.exists_trimList s.toList
    exact ⟨l, before, after, text ▸ split, first, last, small⟩
  · rintro ⟨l, before, after, split, first, last, small⟩
    refine ⟨l, ?_, small⟩
    rw [split, Text.trimList_append first (fun c hc ↦ l.isBlank_of_mem_text hc) last]

instance : DecidablePred SpellsFinite := fun s ↦
  decidable_of_iff (spellsNumber s = true) (spellsNumber_iff s)

/-- Whether a value has the kind that is guessed from it: it is a number, a truth value, or a text
that spells neither. -/
def FitsGuess : Value → Prop
  | .null => False
  | .bool _ => True
  | .number _ => True
  | .string s => ¬ SpellsFinite s ∧ s ≠ "true" ∧ s ≠ "false"
  | .array _ => False
  | .object _ => False

instance : DecidablePred FitsGuess := fun v ↦
  match v with
  | .bool _ | .number _ => inferInstanceAs (Decidable True)
  | .string s => inferInstanceAs (Decidable (¬ SpellsFinite s ∧ s ≠ "true" ∧ s ≠ "false"))
  | .null | .array _ | .object _ => inferInstanceAs (Decidable False)

theorem kind_eq_guess_iff (v : Value) : v.kind = (guess v).jsonKind ↔ FitsGuess v := by
  cases v with
  | string s =>
    rw [FitsGuess, ← spellsNumber_iff, guess]
    by_cases number : spellsNumber s = true
    · rw [if_pos number]
      exact iff_of_false (by rintro ⟨⟩) fun fits ↦ fits.1 number
    rw [if_neg number]
    by_cases truth : s = "true" ∨ s = "false"
    · rw [if_pos truth]
      exact iff_of_false (by rintro ⟨⟩) fun fits ↦ not_or.2 fits.2 truth
    · rw [if_neg truth]
      exact iff_of_true rfl ⟨number, not_or.1 truth⟩
  | bool => exact iff_of_true rfl trivial
  | number => exact iff_of_true rfl trivial
  | null => exact iff_of_false (by rintro ⟨⟩) id
  | array => exact iff_of_false (by rintro ⟨⟩) id
  | object => exact iff_of_false (by rintro ⟨⟩) id

end ScalarKind

end Toolsmith
