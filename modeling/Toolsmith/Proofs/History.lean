import Mathlib.Data.List.Induction

/-!
# What stands at the end of a history

Some entries of a history begin a thing, others end it. It stands at the end if an entry has
begun it and no later entry has ended it. An entry that does both begins it.

## Main definitions

* `Stands`: what has been begun and not been ended since.

## Main statements

* `stands_append_singleton`: what one more entry makes of it.
* `stands_filterMap`: histories of which only some entries count.
* `stands_iff_of_pairwise`: histories in which the entries are in order.
-/

namespace Toolsmith

variable {α β : Type} {begins ends : α → Prop} {history : List α} {entry : α}

/-- Whether an entry of a history begins what no later entry ends. -/
def Stands (begins ends : α → Prop) (history : List α) : Prop :=
  ∃ before e after, history = before ++ e :: after ∧ begins e ∧ ∀ x ∈ after, ¬ ends x

theorem not_stands_nil : ¬ Stands begins ends [] := by
  rintro ⟨before, e, after, split, -⟩
  exact List.append_ne_nil_of_right_ne_nil before (List.cons_ne_nil e after) split.symm

/-- After one more entry it stands if the entry begins it, or leaves it standing. -/
theorem stands_append_singleton :
    Stands begins ends (history ++ [entry]) ↔
      begins entry ∨ Stands begins ends history ∧ ¬ ends entry := by
  constructor
  · rintro ⟨before, e, after, split, begun, kept⟩
    rcases List.eq_nil_or_concat after with rfl | ⟨after, last, rfl⟩
    · obtain ⟨-, same⟩ := List.append_inj' split rfl
      rw [List.singleton_inj.1 same]
      exact .inl begun
    · rw [List.concat_eq_append] at kept
      rw [List.concat_eq_append, ← List.cons_append, ← List.append_assoc] at split
      obtain ⟨earlier, same⟩ := List.append_inj' split rfl
      rw [List.singleton_inj.1 same]
      refine .inr ⟨⟨before, e, after, earlier, begun, fun x hx ↦ ?_⟩, ?_⟩
      · exact kept x (List.mem_append_left _ hx)
      · exact kept last (List.mem_append_right _ (List.mem_singleton_self _))
  · rintro (begun | ⟨⟨before, e, after, rfl, begun, kept⟩, left⟩)
    · exact ⟨history, entry, [], rfl, begun, fun x hx ↦ absurd hx List.not_mem_nil⟩
    · refine ⟨before, e, after ++ [entry], ?_, begun, fun x hx ↦ ?_⟩
      · rw [List.append_assoc, List.cons_append]
      · rcases List.mem_append.1 hx with hx | hx
        · exact kept x hx
        · rwa [List.mem_singleton.1 hx]

/-- What stands was begun by an entry. -/
theorem Stands.exists_begins (h : Stands begins ends history) : ∃ e ∈ history, begins e := by
  obtain ⟨before, e, after, rfl, begun, -⟩ := h
  exact ⟨e, List.mem_append_right _ List.mem_cons_self, begun⟩

/-- Where some entries of a history count for nothing, the others decide. -/
theorem stands_filterMap {read : β → Option α} {begins' ends' : β → Prop} {history : List β}
    (counts : ∀ x ∈ history, ∀ e, read x = some e →
      (begins' x ↔ begins e) ∧ (ends' x ↔ ends e))
    (idle : ∀ x ∈ history, read x = none → ¬ begins' x ∧ ¬ ends' x) :
    Stands begins' ends' history ↔ Stands begins ends (history.filterMap read) := by
  induction history using List.reverseRecOn with
  | nil => exact iff_of_false not_stands_nil not_stands_nil
  | append_singleton history x ih =>
    have last : x ∈ history ++ [x] := List.mem_append_right _ (List.mem_singleton_self x)
    have earlier := ih (fun y hy ↦ counts y (List.mem_append_left _ hy))
      fun y hy ↦ idle y (List.mem_append_left _ hy)
    rw [stands_append_singleton, earlier, List.filterMap_append]
    cases hx : read x with
    | none =>
      obtain ⟨begun, ended⟩ := idle x last hx
      simp [hx, begun, ended]
    | some e =>
      obtain ⟨begun, ended⟩ := counts x last e hx
      rw [begun, ended, ← stands_append_singleton]
      simp [hx]

/-- A history of what is made of the entries of another one. -/
theorem stands_map {f : β → α} {history : List β} :
    Stands begins ends (history.map f) ↔
      Stands (fun x ↦ begins (f x)) (fun x ↦ ends (f x)) history := by
  rw [← List.filterMap_eq_map, ← stands_filterMap]
  · intro x _ e he
    obtain rfl := Option.some.inj he
    exact ⟨Iff.rfl, Iff.rfl⟩
  · intro x _ none
    cases none

/-- Where the entries of a history are in order, none that comes after what has begun ends it. -/
theorem stands_iff_of_pairwise {r : α → α → Prop} (asymm : ∀ {x y}, r x y → ¬ r y x)
    (sorted : history.Pairwise r) : Stands begins ends history ↔
      ∃ e ∈ history, begins e ∧ ∀ x ∈ history, ends x → ¬ r e x := by
  constructor
  · rintro ⟨before, e, after, rfl, begun, kept⟩
    refine ⟨e, List.mem_append_right _ List.mem_cons_self, begun, fun x hx ended later ↦ ?_⟩
    obtain ⟨-, -, apart⟩ := List.pairwise_append.1 sorted
    rcases List.mem_append.1 hx with earlier | hx
    · exact asymm (apart x earlier e List.mem_cons_self) later
    · rcases List.mem_cons.1 hx with rfl | hx
      · exact asymm later later
      · exact kept x hx ended
  · rintro ⟨e, he, begun, last⟩
    obtain ⟨before, after, rfl⟩ := List.append_of_mem he
    refine ⟨before, e, after, rfl, begun, fun x hx ended ↦ ?_⟩
    obtain ⟨-, rest, -⟩ := List.pairwise_append.1 sorted
    exact last x (List.mem_append_right _ (List.mem_cons_of_mem e hx)) ended
      ((List.pairwise_cons.1 rest).1 x hx)

end Toolsmith
