/-!
# Steps that may fail

A chain of steps succeeds where every step does, and rewording the error of a step neither makes it
fail nor succeed. So what is known of a success or a failure of the chain is known of its steps.

## Main definitions

* `errorOf?`: the error of a step, if it fails.
* `Agree`: two steps both fail, or both succeed with results that are related.

## Main statements

* `bind_eq_ok`, `check_bind_eq_ok`, `forM_eq_ok`: two or more steps succeed.
* `bind_eq_error`: one of two steps fails.
* `map_eq_ok`: a step with another result.
* `mapError_eq_ok`, `mapError_eq_error`: a step with a reworded error.
-/

namespace Toolsmith

variable {ε ε' α β : Type}

/-- The error of a step that fails. -/
def errorOf? : Except ε α → Option ε
  | .error e => some e
  | .ok _ => none

@[simp] theorem errorOf?_error (e : ε) : errorOf? (.error e : Except ε α) = some e := rfl

@[simp] theorem errorOf?_ok (a : α) : errorOf? (.ok a : Except ε α) = none := rfl

/-- Two steps succeed if the first one does, and the second one with its result. -/
theorem bind_eq_ok {x : Except ε α} {f : α → Except ε β} {b : β} :
    x >>= f = .ok b ↔ ∃ a, x = .ok a ∧ f a = .ok b := by
  cases x with
  | error e => exact ⟨fun h ↦ (nomatch h), fun ⟨_, h, _⟩ ↦ (nomatch h)⟩
  | ok a => exact ⟨fun h ↦ ⟨a, rfl, h⟩, fun ⟨_, ha, h⟩ ↦ by cases ha; exact h⟩

/-- Two steps fail if the first one does, or the second one with its result. -/
theorem bind_eq_error {x : Except ε α} {f : α → Except ε β} {e : ε} :
    x >>= f = .error e ↔ x = .error e ∨ ∃ a, x = .ok a ∧ f a = .error e := by
  cases x with
  | error e' =>
    constructor
    · exact fun h ↦ .inl (congrArg Except.error (Except.error.inj h))
    · rintro (h | ⟨_, h, -⟩)
      · cases h
        rfl
      · cases h
  | ok a =>
    constructor
    · exact fun h ↦ .inr ⟨a, rfl, h⟩
    · rintro (h | ⟨_, ⟨⟩, h⟩)
      · cases h
      · exact h

/-- A check before a step. -/
theorem check_bind_eq_ok {x : Except ε Unit} {y : Except ε β} {b : β} :
    (x >>= fun _ ↦ y) = .ok b ↔ x = .ok () ∧ y = .ok b := by
  rw [bind_eq_ok]
  exact ⟨fun ⟨_, h, hy⟩ ↦ ⟨h, hy⟩, fun ⟨h, hy⟩ ↦ ⟨(), h, hy⟩⟩

/-- A check of each of several things. -/
theorem forM_eq_ok {as : List α} {f : α → Except ε PUnit} :
    as.forM f = .ok () ↔ ∀ a ∈ as, f a = .ok () := by
  induction as with
  | nil => exact iff_of_true rfl fun _ h ↦ absurd h List.not_mem_nil
  | cons a as ih =>
    have first : (a :: as).forM f = f a >>= fun _ ↦ as.forM f := rfl
    rw [first, check_bind_eq_ok, ih, List.forall_mem_cons]

/-- What is made of a result is a result if there is one. -/
theorem map_eq_ok {x : Except ε α} {f : α → β} {b : β} :
    x.map f = .ok b ↔ ∃ a, x = .ok a ∧ f a = b := by
  cases x <;> simp [Except.map]

/-- Telling a failure in another way changes no success. -/
theorem mapError_eq_ok {x : Except ε α} {f : ε → ε'} {a : α} :
    x.mapError f = .ok a ↔ x = .ok a := by
  cases x with
  | error e => exact iff_of_false nofun nofun
  | ok b =>
    constructor <;>
    · rintro ⟨⟩
      rfl

/-- A failure that is told in another way is one. -/
theorem mapError_eq_error {x : Except ε α} {f : ε → ε'} {e' : ε'} :
    x.mapError f = .error e' ↔ ∃ e, x = .error e ∧ f e = e' := by
  cases x with
  | error e =>
    constructor
    · rintro ⟨⟩
      exact ⟨e, rfl, rfl⟩
    · rintro ⟨_, ⟨⟩, rfl⟩
      rfl
  | ok a => exact iff_of_false nofun fun ⟨_, h, _⟩ ↦ (nomatch h)

/-! ### Steps that agree -/

/-- Whether both steps fail, or both succeed with results that are related. -/
inductive Agree (R : α → β → Prop) : Except ε α → Except ε' β → Prop
  /-- Both succeed. -/
  | ok {a : α} {b : β} (h : R a b) : Agree R (.ok a) (.ok b)
  /-- Both fail. -/
  | error {e : ε} {e' : ε'} : Agree R (.error e) (.error e')

namespace Agree

variable {γ δ : Type} {R : α → β → Prop} {S : γ → δ → Prop} {x : Except ε α} {y : Except ε' β}

/-- Outcomes of two steps agree if both of their steps do. -/
theorem bind {f : α → Except ε γ} {g : β → Except ε' δ} (h : Agree R x y)
    (later : ∀ a b, R a b → Agree S (f a) (g b)) : Agree S (x >>= f) (y >>= g) := by
  cases h with
  | ok h => exact later _ _ h
  | error => exact .error

theorem mapError {ε₁ ε₁' : Type} (h : Agree R x y) (f : ε → ε₁) (g : ε' → ε₁') :
    Agree R (x.mapError f) (y.mapError g) := by
  cases h with
  | ok h => exact .ok h
  | error => exact .error

/-- Of two outcomes that agree, both are successes or neither is. -/
theorem exists_iff (h : Agree R x y) : (∃ a, x = .ok a) ↔ ∃ b, y = .ok b := by
  cases h with
  | ok => exact ⟨fun _ ↦ ⟨_, rfl⟩, fun _ ↦ ⟨_, rfl⟩⟩
  | error => exact ⟨fun ⟨_, h⟩ ↦ (nomatch h), fun ⟨_, h⟩ ↦ (nomatch h)⟩

/-- The results of outcomes that agree are related. -/
theorem of_ok {a : α} {b : β} (h : Agree R x y) (hx : x = .ok a) (hy : y = .ok b) : R a b := by
  cases h with
  | ok h =>
    cases hx
    cases hy
    exact h
  | error => cases hx

end Agree

end Toolsmith
