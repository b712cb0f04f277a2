import Toolsmith.Json.Lexeme

/-!
# Lexemes read back

Each part of JSON text that holds no other parts is read back from its own spelling, whatever
follows it: blanks are passed over, words give their token, and a string gives the characters
that were escaped. Places move along with what is read, and nothing here says where they end up;
the statements only say that there is such a place.

## Main statements

* `skipBlanks_append`: blanks in front of a text make no difference to where reading goes on.
* `readString_writeString`: a written string is read back.
-/

namespace Toolsmith.Json

/-! ### Blanks -/

/-- A text that does not begin with a blank. -/
def StartsPlain (cs : List Char) : Prop := ∃ c rest, cs = c :: rest ∧ isSpace c = false

/-- Blanks are passed over. -/
theorem skipBlanks_append {blanks : List Char} (h : ∀ c ∈ blanks, isSpace c = true)
    (rest : List Char) (p : Position) :
    ∃ q, skipBlanks (blanks ++ rest) p = skipBlanks rest q := by
  induction blanks generalizing p with
  | nil => exact ⟨p, rfl⟩
  | cons c cs ih =>
    obtain ⟨q, hq⟩ := ih (fun x hx ↦ h x (List.mem_cons_of_mem c hx)) (p.after c)
    exact ⟨q, by rw [List.cons_append, skipBlanks, if_pos (h c List.mem_cons_self), hq]⟩

theorem skipBlanks_of_startsPlain {cs : List Char} (h : StartsPlain cs) (p : Position) :
    skipBlanks cs p = ⟨cs, p⟩ := by
  obtain ⟨c, rest, rfl, hc⟩ := h
  rw [skipBlanks, hc, if_neg Bool.false_ne_true]

/-- The break between two lines is blank. -/
theorem isSpace_of_mem_lineBreak {layout : Layout} {level : Nat} {c : Char}
    (h : c ∈ layout.lineBreak level) : isSpace c = true := by
  cases layout with
  | compact => simp [Layout.lineBreak] at h
  | pretty =>
    rcases List.mem_cons.1 h with rfl | h
    · rfl
    · rw [List.eq_of_mem_replicate h]; rfl

/-- A line break in front of a text that is not blank is passed over. -/
theorem skipBlanks_lineBreak (layout : Layout) (level : Nat) {cs : List Char}
    (h : StartsPlain cs) (p : Position) :
    ∃ q, skipBlanks (layout.lineBreak level ++ cs) p = ⟨cs, q⟩ := by
  obtain ⟨q, hq⟩ := skipBlanks_append (fun _ hc ↦ isSpace_of_mem_lineBreak hc) cs p
  exact ⟨q, by rw [hq, skipBlanks_of_startsPlain h]⟩

/-! ### Words -/

/-- A word is read where it stands. -/
theorem readWord_append {α : Type} (value : α) (word rest : List Char) (p : Position) :
    ∃ q, readWord value word (word ++ rest) p = .token value ⟨rest, q⟩ := by
  induction word generalizing p with
  | nil => exact ⟨p, rfl⟩
  | cons c cs ih =>
    obtain ⟨q, hq⟩ := ih (p.after c)
    exact ⟨q, by rw [List.cons_append, readWord, if_pos rfl, hq]⟩

/-! ### Strings -/

theorem hexDigit?_digitChar : ∀ n < 16, hexDigit? (Nat.digitChar n) = some n := by
  decide

/-- The escape of a control character spells its number. -/
theorem hex4?_digitChar {n : Nat} (h : n < 0x20) :
    hex4? '0' '0' (Nat.digitChar (n / 16)) (Nat.digitChar (n % 16)) = some n := by
  have high := hexDigit?_digitChar (n / 16) (by omega)
  have low := hexDigit?_digitChar (n % 16) (by omega)
  have zero : hexDigit? '0' = some 0 := by decide
  simp only [hex4?, high, low, zero, Option.bind_eq_bind, Option.bind_some, Option.pure_def,
    Option.some.injEq]
  omega

/-- A character is written as a letter after a backslash, as its number, or as it is. -/
theorem escape_cases (c : Char) :
    (∃ e, escape c = ['\\', e] ∧ e ≠ 'u' ∧ unescape? e = some c) ∨
    (c.toNat < 0x20 ∧ escape c =
      ['\\', 'u', '0', '0', Nat.digitChar (c.toNat / 16), Nat.digitChar (c.toNat % 16)]) ∨
    (c ≠ '"' ∧ c ≠ '\\' ∧ ¬ c.toNat < 0x20 ∧ escape c = [c]) := by
  unfold escape
  split
  next h => exact .inl ⟨'"', rfl, by decide, by rw [h]; decide⟩
  split
  next h => exact .inl ⟨'\\', rfl, by decide, by rw [h]; decide⟩
  split
  next h => exact .inl ⟨'n', rfl, by decide, by rw [h]; decide⟩
  split
  next h => exact .inl ⟨'r', rfl, by decide, by rw [h]; decide⟩
  split
  next h => exact .inl ⟨'t', rfl, by decide, by rw [h]; decide⟩
  split
  next h => exact .inl ⟨'b', rfl, by decide, by rw [h]; decide⟩
  split
  next h => exact .inl ⟨'f', rfl, by decide, by rw [h]; decide⟩
  split
  next h => exact .inr (.inl ⟨h, rfl⟩)
  next hq hb _ _ _ _ _ hc => exact .inr (.inr ⟨hq, hb, hc, rfl⟩)

/-- One escaped character is read back as itself. -/
theorem readString_escape (c : Char) (rest : List Char) (p : Position) (acc : List Char)
    (bad : Option Fault) :
    ∃ q, readString (escape c ++ rest) p acc bad = readString rest q (c :: acc) bad := by
  rcases escape_cases c with ⟨e, he, hu, hc⟩ | ⟨hc, he⟩ | ⟨hq, hb, hc, he⟩
  · exact ⟨p.plus 2, by rw [he, readString.eq_def]; simp [hu, hc]⟩
  · -- The number of a control character is no half of a surrogate pair.
    have notLow : isLowSurrogate c.toNat = false := by
      simp only [isLowSurrogate, Bool.and_eq_false_iff, decide_eq_false_iff_not]; omega
    have notHigh : isHighSurrogate c.toNat = false := by
      simp only [isHighSurrogate, Bool.and_eq_false_iff, decide_eq_false_iff_not]; omega
    refine ⟨p.plus 6, ?_⟩
    rw [he, readString.eq_def]
    simp [hex4?_digitChar hc, notLow, notHigh, Char.ofNat_toNat]
  · exact ⟨p.after c, by rw [he, readString.eq_def]; simp [hq, hb, hc]⟩

/-- Escaped characters are read back inside a string. -/
theorem readString_flatMap_escape (cs rest : List Char) (p : Position) (acc : List Char)
    (bad : Option Fault) :
    ∃ q, readString (cs.flatMap escape ++ rest) p acc bad =
      readString rest q (cs.reverse ++ acc) bad := by
  induction cs generalizing p acc with
  | nil => exact ⟨p, rfl⟩
  | cons c cs ih =>
    obtain ⟨q, hq⟩ := readString_escape c (cs.flatMap escape ++ rest) p acc bad
    obtain ⟨r, hr⟩ := ih q (c :: acc)
    refine ⟨r, ?_⟩
    rw [List.flatMap_cons, List.append_assoc, hq, hr]
    simp

/-- A written string is read back, after its opening quote and up to the closing one. -/
theorem readString_writeString (s : String) (rest : List Char) (p : Position) :
    ∃ q, readString (s.toList.flatMap escape ++ '"' :: rest) p [] none =
      .token s ⟨rest, q⟩ := by
  obtain ⟨q, hq⟩ := readString_flatMap_escape s.toList ('"' :: rest) p [] none
  refine ⟨q.plus 1, ?_⟩
  rw [hq, readString.eq_def]
  simp [closeString]

theorem writeString_append (s : String) (rest : List Char) :
    writeString s ++ rest = '"' :: (s.toList.flatMap escape ++ '"' :: rest) := by
  rw [writeString, List.cons_append, List.append_assoc]
  rfl

theorem startsPlain_writeString (s : String) (rest : List Char) :
    StartsPlain (writeString s ++ rest) :=
  ⟨'"', _, writeString_append s rest, rfl⟩

end Toolsmith.Json
