import Mathlib.Data.List.Basic

/-!
# Pieces of texts

What is made of a text piece by piece is made of its pieces one by one, and texts that are put
together with a character between them are split into themselves again exactly if none of them holds
the character.

## Main definitions

* `Text.Passes`: what a function makes of the beginning of a text, whatever follows it.

## Main statements

* `Text.splitOn_intercalate_eq_flatMap`: the pieces of texts that are put together.
* `Text.splitOn_intercalate_eq_iff`: when those are the texts themselves.
* `Text.Passes.joined`: what is made of texts that are put together.
-/

namespace Toolsmith.Text

variable {sep : Char}

/-! ### Texts put together -/

section Intercalate

variable {α : Type} {a : α}

/-- What stands in texts that are put together stands in one of them or between them. -/
theorem mem_intercalate {s : List α} {ps : List (List α)} (h : a ∈ s.intercalate ps) :
    (∃ p ∈ ps, a ∈ p) ∨ a ∈ s := by
  match ps with
  | [] => exact absurd h (by rw [List.intercalate_nil]; exact List.not_mem_nil)
  | [p] =>
    rw [List.intercalate_singleton] at h
    exact .inl ⟨p, List.mem_cons_self, h⟩
  | p :: q :: ps =>
    rw [List.intercalate_cons_cons, List.mem_append, List.mem_append] at h
    rcases h with (h | h) | h
    · exact .inl ⟨p, List.mem_cons_self, h⟩
    · exact .inr h
    · exact (mem_intercalate h).imp_left fun ⟨r, hr, ha⟩ ↦ ⟨r, List.mem_cons_of_mem p hr, ha⟩

theorem mem_intercalate_of_mem (s : List α) {ps : List (List α)} {p : List α} (hp : p ∈ ps)
    (ha : a ∈ p) : a ∈ s.intercalate ps := by
  match ps with
  | [q] =>
    rw [List.intercalate_singleton, ← List.mem_singleton.1 hp]
    exact ha
  | q :: r :: ps =>
    rw [List.intercalate_cons_cons, List.mem_append, List.mem_append]
    rcases List.mem_cons.1 hp with rfl | hp
    · exact .inl (.inl ha)
    · exact .inr (mem_intercalate_of_mem s hp ha)

theorem intercalate_nil_eq_flatten (ps : List (List α)) : List.intercalate [] ps = ps.flatten := by
  match ps with
  | [] => exact List.intercalate_nil
  | [p] => rw [List.intercalate_singleton, List.flatten_singleton]
  | p :: q :: ps =>
    rw [List.intercalate_cons_cons, intercalate_nil_eq_flatten (q :: ps), List.append_nil]
    rfl

end Intercalate

/-- Texts joined by the text of one character. -/
theorem toList_intercalate {s : String} (h : s.toList = [sep]) (texts : List String) :
    (s.intercalate texts).toList = [sep].intercalate (texts.map String.toList) := by
  rw [String.toList_intercalate, h]

/-! ### Texts split -/

/-- The pieces of texts that are put together are those of each. -/
theorem splitOn_intercalate_eq_flatMap {ps : List (List Char)} (ne : ps ≠ []) :
    ([sep].intercalate ps).splitOn sep = ps.flatMap (List.splitOn sep) := by
  match ps with
  | [] => exact absurd rfl ne
  | [p] => rw [List.intercalate_singleton, List.flatMap_singleton]
  | p :: q :: ps =>
    have rest := splitOn_intercalate_eq_flatMap (List.cons_ne_nil q ps)
    rw [List.intercalate_cons_cons, List.append_assoc, List.singleton_append,
      List.splitOn_append_cons_self, rest]
    rfl

theorem mem_of_mem_splitOn {cs p : List Char} {c : Char} (hp : p ∈ cs.splitOn sep) (hc : c ∈ p) :
    c ∈ cs := by
  rw [← @List.intercalate_splitOn _ cs _ _ sep]
  exact mem_intercalate_of_mem [sep] hp hc

/-- No piece holds the character. -/
theorem notMem_of_mem_splitOn {cs p : List Char} (hp : p ∈ cs.splitOn sep) : sep ∉ p := by
  induction cs generalizing p with
  | nil =>
    rw [List.splitOn_nil] at hp
    rw [List.mem_singleton.1 hp]
    exact List.not_mem_nil
  | cons c cs ih =>
    rw [List.splitOn_cons_eq_if_modifyHead] at hp
    split at hp
    · rcases List.mem_cons.1 hp with rfl | hp
      · exact List.not_mem_nil
      · exact ih hp
    next other =>
      obtain ⟨q, qs, pieces⟩ := List.exists_cons_of_ne_nil (List.splitOn_ne_nil sep cs)
      rw [pieces] at hp ih
      rcases List.mem_cons.1 hp with rfl | hp
      · rw [List.mem_cons, not_or]
        exact ⟨fun same ↦ other (beq_iff_eq.2 same.symm), ih List.mem_cons_self⟩
      · exact ih (List.mem_cons_of_mem q hp)

/-- Texts that are put together are split into themselves if and only if none of them holds the
character. -/
theorem splitOn_intercalate_eq_iff {ps : List (List Char)} (ne : ps ≠ []) :
    ([sep].intercalate ps).splitOn sep = ps ↔ ∀ p ∈ ps, sep ∉ p := by
  refine ⟨fun same p hp ↦ ?_, fun h ↦ List.splitOn_intercalate sep h ne⟩
  rw [← same] at hp
  exact notMem_of_mem_splitOn hp

/-! ### Texts that are passed over -/

section Passes

variable {α β : Type} {f : List Char → List β} {cs cs' : List Char} {ds ds' : List β}

/-- Whether a function makes a beginning of a text to something, whatever follows it. -/
def Passes (f : List Char → List β) (cs : List Char) (ds : List β) : Prop :=
  ∀ rest, f (cs ++ rest) = ds ++ f rest

namespace Passes

theorem nil : Passes f [] [] :=
  fun _ ↦ rfl

theorem append (h : Passes f cs ds) (h' : Passes f cs' ds') :
    Passes f (cs ++ cs') (ds ++ ds') := by
  intro rest
  rw [List.append_assoc, h, h', List.append_assoc]

/-- What one function makes of a text, the next one makes something of. -/
theorem comp {γ : Type} {g : List Char → List γ} {f : List Char → List Char} {ds : List Char}
    {es : List γ} (h : Passes f cs ds) (h' : Passes g ds es) :
    Passes (fun cs ↦ g (f cs)) cs es := by
  intro rest
  show g (f (cs ++ rest)) = es ++ g (f rest)
  rw [h, h']

theorem flatMap {g : α → List Char} {g' : α → List β} {l : List α}
    (h : ∀ a ∈ l, Passes f (g a) (g' a)) : Passes f (l.flatMap g) (l.flatMap g') := by
  induction l with
  | nil => exact nil
  | cons a l ih =>
    rw [List.flatMap_cons, List.flatMap_cons]
    exact (h a List.mem_cons_self).append (ih fun b hb ↦ h b (List.mem_cons_of_mem _ hb))

theorem joined {sep : Char} (hs : Passes f [sep] ds) {g : α → List Char} {g' : α → List β}
    {l : List α} (h : ∀ a ∈ l, Passes f (g a) (g' a)) :
    Passes f ([sep].intercalate (l.map g)) (ds.intercalate (l.map g')) := by
  match l with
  | [] => exact nil
  | [a] =>
    rw [List.map_singleton, List.map_singleton, List.intercalate_singleton,
      List.intercalate_singleton]
    exact h a List.mem_cons_self
  | a :: b :: l =>
    have rest : Passes f ([sep].intercalate ((b :: l).map g))
        (ds.intercalate ((b :: l).map g')) :=
      joined hs fun c hc ↦ h c (List.mem_cons_of_mem _ hc)
    rw [List.map_cons, List.map_cons, List.map_cons, List.map_cons, List.intercalate_cons_cons,
      List.append_assoc]
    exact (h a List.mem_cons_self).append (hs.append rest)

/-- What the function makes of the text by itself, if it makes nothing of the empty text. -/
theorem eq (h : Passes f cs ds) (none : f [] = []) : f cs = ds := by
  rw [← List.append_nil cs, h, none, List.append_nil]

end Passes

end Passes

end Toolsmith.Text
