import Toolsmith.Proofs.Naming

/-!
# Names that can be used

Each of the names of a tool has three sources: what its request declares, what the augmentor
suggests, and a default. What is declared counts unless it is empty, and what is suggested counts
unless it is blank; no default is empty. So a tool can always be called, shown and explained,
whatever its request lacks and whatever is suggested for it, and the only other outcome is a failure
of the augmentor that is passed on.

## Main definitions

* `Naming.IsUsable`: what is required of the names of a request.

## Main statements

* `Naming.isUsable_ofRequest`, `Naming.isUsable_ofSuggestion`: names with and without a suggestion.
* `Naming.Resolver.answer?_eq_error_iff`: when the augmentor is asked and fails.
* `Naming.Resolver.resolve_usable`: names are usable or a failure is passed on, and when.
-/

namespace Toolsmith.Naming

open Collection (Request)

/-! ### Declared texts -/

variable {text : Option String} {t fallback : String}

theorem declared_eq_some_iff : declared text = some t ↔ text = some t ∧ t ≠ "" := by
  rw [declared, Option.filter_eq_some_iff, Bool.not_eq_true', ← Bool.not_eq_true,
    String.isEmpty_iff]

theorem declared_eq_none_iff : declared text = none ↔ text = none ∨ text = some "" := by
  cases text with
  | none => exact iff_of_true rfl (.inl rfl)
  | some t => simp [declared]

/-- A text with a default is not empty. -/
theorem getD_declared_ne_empty (h : fallback ≠ "") : (declared text).getD fallback ≠ "" := by
  cases found : declared text with
  | none => exact h
  | some t => exact (declared_eq_some_iff.1 found).2

/-- What a request lacks is there neither as a text nor as an empty one. -/
theorem isIncomplete_iff {r : Request} :
    isIncomplete r = true ↔
      r.name = none ∨ r.name = some "" ∨ r.description = none ∨ r.description = some "" := by
  rw [isIncomplete, Bool.or_eq_true, Option.isNone_iff_eq_none, Option.isNone_iff_eq_none,
    declared_eq_none_iff, declared_eq_none_iff, or_assoc]

/-! ### Usable names -/

/-- What is required of the names of a request. -/
structure IsUsable (r : Request) (n : Naming) : Prop where
  /-- The tool can be called, and its file can be named. -/
  isIdentifier : IsIdentifier n.identifier
  /-- The title is not empty. -/
  title_ne_empty : n.title ≠ ""
  /-- The description is not empty. -/
  description_ne_empty : n.description ≠ ""
  /-- A name that is declared is the title. -/
  title_eq : ∀ name, r.name = some name → name ≠ "" → n.title = name

theorem isUsable_ofRequest (r : Request) : IsUsable r (ofRequest r) where
  isIdentifier := isIdentifier_ofRequest r
  title_ne_empty := getD_declared_ne_empty (by decide)
  description_ne_empty := by
    refine getD_declared_ne_empty fun he ↦ ?_
    have chars := congrArg String.toList he
    rw [String.toList_append, String.toList_append] at chars
    exact absurd (List.append_eq_nil_iff.1 (List.append_eq_nil_iff.1 chars).1).1 (by decide)
  title_eq name named ne := by
    rw [ofRequest, declared_eq_some_iff.2 ⟨named, ne⟩]
    rfl

theorem isUsable_ofSuggestion (r : Request) (s : Suggestion) : IsUsable r (ofSuggestion r s) where
  isIdentifier := isIdentifier_ofSuggestion r s
  title_ne_empty := by
    refine getD_declared_ne_empty ?_
    -- A blank name gives way to the title that there would be without it.
    split
    next => exact (isUsable_ofRequest r).title_ne_empty
    next named => exact mt String.isEmpty_iff.2 named
  description_ne_empty := by
    simp only [ofSuggestion]
    split
    next => exact (isUsable_ofRequest r).description_ne_empty
    next told =>
      intro he
      rw [he] at told
      exact told rfl
  title_eq name named ne := by
    rw [ofSuggestion, declared_eq_some_iff.2 ⟨named, ne⟩]
    rfl

/-! ### Resolution -/

variable {σ : Type}

theorem Resolver.answer?_eq_error_iff {resolver : Resolver σ} {r : Request} {s : σ}
    {e : AugmentError} :
    resolver.answer? r s = some (.error e) ↔
      ∃ augmentor, resolver.augmentor = some augmentor ∧ isIncomplete r = true ∧
        (augmentor.suggest r s).1 = .error e := by
  rw [answer?]
  cases isIncomplete r with
  | false => simp
  | true => simp

/-- Names are resolved, and then they are usable, or a failure is passed on. A failure is passed on
exactly if there is an augmentor, the name or the description is missing or empty, the augmentor
fails, and its failures are not passed over. -/
theorem Resolver.resolve_usable (resolver : Resolver σ) (r : Request) (s : σ) :
    ((∃ naming, (resolver.resolve r s).1 = .ok naming ∧ IsUsable r naming) ∨
      ∃ e, (resolver.resolve r s).1 = .error e) ∧
    ∀ e, (resolver.resolve r s).1 = .error e ↔
      ∃ augmentor, resolver.augmentor = some augmentor ∧
        (r.name = none ∨ r.name = some "" ∨ r.description = none ∨ r.description = some "") ∧
        (augmentor.suggest r s).1 = .error e ∧ resolver.policy = .abort := by
  have passed (e : AugmentError) :
      (∃ augmentor, resolver.augmentor = some augmentor ∧
        (r.name = none ∨ r.name = some "" ∨ r.description = none ∨ r.description = some "") ∧
        (augmentor.suggest r s).1 = .error e ∧ resolver.policy = .abort) ↔
      resolver.answer? r s = some (.error e) ∧ resolver.policy = .abort := by
    rw [answer?_eq_error_iff, isIncomplete_iff]
    exact ⟨fun ⟨a, asked, lacks, fails, aborts⟩ ↦ ⟨⟨a, asked, lacks, fails⟩, aborts⟩,
      fun ⟨⟨a, asked, lacks, fails⟩, aborts⟩ ↦ ⟨a, asked, lacks, fails, aborts⟩⟩
  simp only [passed]
  obtain ⟨answered, plain⟩ | ⟨suggestion, answered, suggested⟩ | ⟨d, answered, falls, plain⟩ |
    ⟨d, answered, aborts, failed⟩ := resolver.resolve_cases r s
  · rw [plain, answered]
    exact ⟨.inl ⟨_, rfl, isUsable_ofRequest r⟩, fun e ↦ iff_of_false nofun nofun⟩
  · rw [suggested, answered]
    exact ⟨.inl ⟨_, rfl, isUsable_ofSuggestion r suggestion⟩, fun e ↦ iff_of_false nofun nofun⟩
  · rw [plain, answered, falls]
    exact ⟨.inl ⟨_, rfl, isUsable_ofRequest r⟩, fun e ↦ iff_of_false nofun nofun⟩
  · rw [failed, answered, aborts]
    refine ⟨.inr ⟨d, rfl⟩, fun e ↦ ⟨fun same ↦ ⟨?_, rfl⟩, fun ⟨same, _⟩ ↦ ?_⟩⟩
    · rw [Except.error.inj same]
    · rw [Except.error.inj (Option.some.inj same)]

end Toolsmith.Naming
