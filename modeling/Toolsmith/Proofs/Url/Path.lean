import Toolsmith.Proofs.Text.Percent
import Toolsmith.Url.Path

/-!
# Dot segments

A path is continued by its segments as they are, as long as none of them spells one dot or two.
A segment that does is not in the path that comes out, in any spelling.

The dots of a segment are the bytes that it decodes to. An encoded component therefore spells
dots only where it is the encoding of dots.

## Main definitions

* `Url.Path.IsDots`: the segments that are not kept.

## Main statements

* `Url.Path.extend_of_forall_not_isDots`: a path without dot segments.
* `Url.Path.mem_extend`: where the segments of a path come from.
* `Url.Path.isDots_encodeComponent`: the components whose encoding spells dots.
* `Url.Path.percentDecode_ne_of_mem_extend`: a path of encoded components never decodes to dots.
-/

namespace Toolsmith.Url.Path

open Text (encodeComponent percentDecode utf8)

variable {path segments : List (List Char)} {segment t : List Char} {isLast : Bool}

/-- Whether a segment spells one dot or two. -/
def IsDots (segment : List Char) : Prop :=
  dots? segment = some 1 ∨ dots? segment = some 2

/-! ### Continued paths -/

theorem step_of_not_isDots (h : ¬ IsDots segment) :
    step path segment isLast = path ++ [segment] := by
  rw [IsDots, not_or] at h
  rw [step]
  split
  next one => exact absurd one h.1
  next two => exact absurd two h.2
  next => rfl

/-- A path continued by segments that spell no dots has them as they are. -/
theorem extend_of_forall_not_isDots (h : ∀ s ∈ segments, ¬ IsDots s) :
    extend path segments = path ++ segments := by
  induction path, segments using extend.induct with
  | case1 path => exact (List.append_nil path).symm
  | case2 path segment => exact step_of_not_isDots (h segment List.mem_cons_self)
  | case3 path segment rest more ih =>
    have first : step path segment false = path ++ [segment] :=
      step_of_not_isDots (h segment List.mem_cons_self)
    rw [extend, ih fun s hs ↦ h s (List.mem_cons_of_mem _ hs), first, List.append_assoc,
      List.singleton_append]
    exact more

theorem mem_step_of_isDots (dots : IsDots segment) (h : t ∈ step path segment isLast) :
    t ∈ path ∨ t = [] := by
  have shorter : t ∈ path.dropLast → t ∈ path := fun ht ↦ (List.dropLast_sublist path).subset ht
  rcases dots with one | two
  · simp only [step, one] at h
    cases isLast with
    | false => exact Or.inl h
    | true => exact (List.mem_append.1 h).imp_right List.mem_singleton.1
  · simp only [step, two] at h
    cases isLast with
    | false => exact Or.inl (shorter h)
    | true => exact (List.mem_append.1 h).imp shorter List.mem_singleton.1

/-- After a step, a path has the segments it had, an empty one, or the one it took. -/
theorem mem_step (h : t ∈ step path segment isLast) :
    t ∈ path ∨ t = [] ∨ (t = segment ∧ ¬ IsDots t) := by
  by_cases dots : IsDots segment
  · -- Dots add an empty segment at most, and that where they end the path.
    exact (mem_step_of_isDots dots h).imp_right Or.inl
  · rw [step_of_not_isDots dots, List.mem_append, List.mem_singleton] at h
    rcases h with h | rfl
    · exact Or.inl h
    · exact Or.inr (Or.inr ⟨rfl, dots⟩)

/-- A segment of a continued path was there before, is empty, or is one of the segments that
spell no dots. -/
theorem mem_extend (h : t ∈ extend path segments) :
    t ∈ path ∨ t = [] ∨ (t ∈ segments ∧ ¬ IsDots t) := by
  induction path, segments using extend.induct with
  | case1 path => exact Or.inl h
  | case2 path segment =>
    rcases mem_step h with before | empty | ⟨rfl, kept⟩
    · exact Or.inl before
    · exact Or.inr (Or.inl empty)
    · exact Or.inr (Or.inr ⟨List.mem_cons_self, kept⟩)
  | case3 path segment rest more ih =>
    rw [extend] at h
    · rcases ih h with before | empty | ⟨later, kept⟩
      · rcases mem_step before with before | empty | ⟨rfl, kept⟩
        · exact Or.inl before
        · exact Or.inr (Or.inl empty)
        · exact Or.inr (Or.inr ⟨List.mem_cons_self, kept⟩)
      · exact Or.inr (Or.inl empty)
      · exact Or.inr (Or.inr ⟨List.mem_cons_of_mem _ later, kept⟩)
    · exact more

/-! ### Spelled dots -/

theorem dots?_replicate (n : Nat) : dots? (List.replicate n '.') = some n := by
  induction n with
  | zero => rfl
  | succ n ih => rw [List.replicate_succ, dots?, ih, Option.map_some]

theorem encodeComponent_replicate (n : Nat) :
    encodeComponent (List.replicate n '.') = List.replicate n '.' := by
  refine Text.percentEncode_eq_self fun c hc ↦ ?_
  rw [List.eq_of_mem_replicate hc]
  rfl

/-- The dots of a text are the bytes that it decodes to. -/
theorem percentDecode_of_dots? {n : Nat} (h : dots? segment = some n) :
    percentDecode segment = utf8 (List.replicate n '.') := by
  induction segment using dots?.induct generalizing n with
  | case1 =>
    obtain rfl : 0 = n := Option.some.inj h
    rfl
  | case2 rest ih =>
    rw [dots?, Option.map_eq_some_iff] at h
    obtain ⟨m, hm, rfl⟩ := h
    rw [Text.percentDecode_cons (by decide), ih hm]
    rfl
  | case3 e rest he ih =>
    rw [dots?, if_pos he, Option.map_eq_some_iff] at h
    obtain ⟨m, hm, rfl⟩ := h
    have byte : Text.hexByte? '2' e = some 0x2E := by
      rcases he with rfl | rfl <;> decide
    rw [percentDecode, byte]
    show 0x2E :: percentDecode rest = 0x2E :: utf8 (List.replicate m '.')
    rw [ih hm]
  | case4 e rest he =>
    rw [dots?, if_neg he] at h
    exact absurd h (by simp)
  | case5 cs notEmpty noDot noByte =>
    rw [dots?] at h
    · exact absurd h (by simp)
    all_goals assumption

/-- The encoding of a component spells dots only where the component is dots. -/
theorem dots?_encodeComponent {cs : List Char} {n : Nat} :
    dots? (encodeComponent cs) = some n ↔ cs = List.replicate n '.' := by
  constructor
  · intro h
    apply Text.utf8_injective
    rw [← Text.percentDecode_encodeComponent, percentDecode_of_dots? h]
  · rintro rfl
    rw [encodeComponent_replicate, dots?_replicate]

/-- Encoding makes no dots, and takes none away. -/
theorem isDots_encodeComponent {cs : List Char} :
    IsDots (encodeComponent cs) ↔ cs = ['.'] ∨ cs = ['.', '.'] := by
  rw [IsDots, dots?_encodeComponent, dots?_encodeComponent]
  rfl

/-- No segment of a path of encoded components decodes to dots. -/
theorem percentDecode_ne_of_mem_extend {v : List Char} (h : t ∈ extend [] segments)
    (encoded : ∀ s ∈ segments, ∃ text, encodeComponent text = s)
    (dots : v = ['.'] ∨ v = ['.', '.']) : percentDecode t ≠ utf8 v := by
  intro decoded
  rcases mem_extend h with before | rfl | ⟨added, kept⟩
  · exact absurd before List.not_mem_nil
  · have empty : [] = v := Text.utf8_injective decoded
    subst empty
    simp at dots
  · obtain ⟨text, rfl⟩ := encoded t added
    rw [Text.percentDecode_encodeComponent] at decoded
    have same : text = v := Text.utf8_injective decoded
    exact kept (isDots_encodeComponent.2 (same ▸ dots))

end Toolsmith.Url.Path
