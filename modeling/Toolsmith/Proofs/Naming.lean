import Toolsmith.Naming
import Toolsmith.Proofs.Path

/-!
# Identifiers and directory names

However a request is named, and whatever an augmentor suggests, the identifier of its tool is
spelled by some title. So it is not empty and holds letters and digits only: it can name a file.
What a folder is named becomes the name of a directory in the same way.

## Main definitions

* `Naming.IsIdentifier`, `Naming.IsDirectoryName`: what identifiers and directory names are made of.

## Main statements

* `Naming.Resolver.resolve_cases`: the ways in which names are resolved.
* `Naming.Resolver.isIdentifier`: whatever is resolved is an identifier.
* `Naming.IsDirectoryName.isName`: a directory name goes one step down.
-/

namespace Toolsmith.Naming

open Collection (Request)

/-! ### Spelling -/

/-- A letter or digit is one in upper case. -/
theorem isAlphanum_toUpper {c : Char} (h : c.isAlphanum = true) : c.toUpper.isAlphanum = true := by
  unfold Char.toUpper
  split
  next lower =>
    have least : 97 ≤ c.val.toNat := lower.1
    have greatest : c.val.toNat ≤ 122 := lower.2
    have shifted : (c.val + ('A'.val - 'a'.val)).toNat = c.val.toNat - 32 := by
      rw [UInt32.toNat_add, show ('A'.val - 'a'.val).toNat = 4294967264 by decide]
      omega
    unfold Char.isAlphanum Char.isAlpha Char.isUpper
    simp only [Bool.or_eq_true, decide_eq_true_eq, ge_iff_le, UInt32.le_iff_toNat_le, shifted]
    refine .inl (.inl ⟨?_, ?_⟩)
    · show 65 ≤ c.val.toNat - 32
      omega
    · show c.val.toNat - 32 ≤ 90
      omega
  next => exact h

/-- A letter or digit is one in lower case. -/
theorem isAlphanum_toLower {c : Char} (h : c.isAlphanum = true) : c.toLower.isAlphanum = true := by
  unfold Char.toLower
  split
  next upper =>
    have least : 65 ≤ c.val.toNat := upper.1
    have greatest : c.val.toNat ≤ 90 := upper.2
    have shifted : (c.val + ('a'.val - 'A'.val)).toNat = c.val.toNat + 32 := by
      rw [UInt32.toNat_add, show ('a'.val - 'A'.val).toNat = 32 by decide]
      omega
    unfold Char.isAlphanum Char.isAlpha Char.isLower
    simp only [Bool.or_eq_true, Bool.and_eq_true, decide_eq_true_eq, ge_iff_le,
      UInt32.le_iff_toNat_le, shifted]
    refine .inl (.inr ⟨?_, ?_⟩)
    · show 97 ≤ c.val.toNat + 32
      omega
    · show c.val.toNat + 32 ≤ 122
      omega
  next => exact h

/-- Only letters and digits are kept in words. -/
theorem isAlphanum_words (afterBlank : Bool) (cs : List Char) :
    ∀ w ∈ words afterBlank cs, ∀ c ∈ w, c.isAlphanum = true := by
  induction cs generalizing afterBlank with
  | nil => exact List.forall_mem_singleton.2 fun _ h ↦ absurd h List.not_mem_nil
  | cons c cs ih =>
    have ended (b : Bool) : ∀ w ∈ [] :: words b cs, ∀ c ∈ w, c.isAlphanum = true :=
      List.forall_mem_cons.2 ⟨fun _ h ↦ absurd h List.not_mem_nil, ih b⟩
    rw [words]
    split
    · split
      · exact ih true
      · exact ended true
    · split
      · exact ended false
      · split
        next kept =>
          have rest := ih false
          cases hw : words false cs with
          | nil => exact fun _ h ↦ absurd h List.not_mem_nil
          | cons w ws =>
            rw [hw] at rest
            obtain ⟨first, rest⟩ := List.forall_mem_cons.1 rest
            exact List.forall_mem_cons.2 ⟨List.forall_mem_cons.2 ⟨kept, first⟩, rest⟩
        next => exact ih false

theorem isAlphanum_capitalize {w : List Char} (h : ∀ c ∈ w, c.isAlphanum = true) :
    ∀ c ∈ capitalize w, c.isAlphanum = true := by
  cases w with
  | nil => exact h
  | cons c w =>
    obtain ⟨first, rest⟩ := List.forall_mem_cons.1 h
    exact List.forall_mem_cons.2 ⟨isAlphanum_toUpper first, rest⟩

theorem isAlphanum_camelCase {ws : List (List Char)} (h : ∀ w ∈ ws, ∀ c ∈ w, c.isAlphanum = true) :
    ∀ c ∈ camelCase ws, c.isAlphanum = true := by
  cases ws with
  | nil => exact fun _ h ↦ absurd h List.not_mem_nil
  | cons w ws =>
    obtain ⟨first, rest⟩ := List.forall_mem_cons.1 h
    refine List.forall_mem_append.2 ⟨List.forall_mem_map.2 fun c hc ↦ ?_, fun c hc ↦ ?_⟩
    · exact isAlphanum_toLower (first c hc)
    · obtain ⟨w, hw, hc⟩ := List.mem_flatMap.1 hc
      exact isAlphanum_capitalize (rest w hw) c hc

/-! ### Identifiers -/

/-- An identifier is not empty and holds letters and digits only. -/
structure IsIdentifier (s : String) : Prop where
  /-- It is not empty. -/
  ne_empty : s ≠ ""
  /-- It holds letters and digits. -/
  isAlphanum : ∀ c ∈ s.toList, c.isAlphanum = true

/-- What holds letters and digits only holds no slash. -/
theorem IsIdentifier.slash_notMem {s : String} (h : IsIdentifier s) : '/' ∉ s.toList :=
  fun hs ↦ absurd (h.isAlphanum '/' hs) (by decide)

theorem identifierOr_ne_empty (title : String) : identifierOr title ≠ "" := by
  rw [identifierOr]
  split
  next => decide
  next h => exact fun he ↦ h (by rw [he]; rfl)

/-- A title becomes an identifier, or else the fallback does. -/
theorem isIdentifier_identifierOr (title : String) : IsIdentifier (identifierOr title) := by
  refine ⟨identifierOr_ne_empty title, ?_⟩
  rw [identifierOr]
  split
  next => exact List.all_eq_true.1 (by decide)
  next =>
    rw [spelled, String.toList_ofList]
    exact isAlphanum_camelCase (isAlphanum_words false title.toList)

/-! ### Resolution -/

variable {σ : Type}

/-- What the augmentor answers for a request, where it is asked. -/
def Resolver.answer? (resolver : Resolver σ) (r : Request) (s : σ) :
    Option (Except AugmentError Suggestion) :=
  if isIncomplete r then resolver.augmentor.map fun augmentor ↦ (augmentor.suggest r s).1 else none

/-- The four ways in which names are resolved: without an answer, by a suggestion, and after a
failure, which is passed over or passed on. -/
theorem Resolver.resolve_cases (resolver : Resolver σ) (r : Request) (s : σ) :
    (resolver.answer? r s = none ∧ (resolver.resolve r s).1 = .ok (ofRequest r)) ∨
      (∃ suggestion, resolver.answer? r s = some (.ok suggestion) ∧
        (resolver.resolve r s).1 = .ok (ofSuggestion r suggestion)) ∨
      (∃ e, resolver.answer? r s = some (.error e) ∧ resolver.policy = .fallback ∧
        (resolver.resolve r s).1 = .ok (ofRequest r)) ∨
      ∃ e, resolver.answer? r s = some (.error e) ∧ resolver.policy = .abort ∧
        (resolver.resolve r s).1 = .error e := by
  rw [answer?, resolve]
  cases resolver.augmentor with
  | none => exact .inl ⟨ite_self none, rfl⟩
  | some augmentor =>
    cases lacks : isIncomplete r with
    | false => exact .inl ⟨rfl, rfl⟩
    | true =>
      rcases answered : augmentor.suggest r s with ⟨e | suggestion, s'⟩
      · cases policy : resolver.policy with
        | abort => exact .inr (.inr (.inr ⟨e, by simp [answered], rfl, by simp [answered]⟩))
        | fallback => exact .inr (.inr (.inl ⟨e, by simp [answered], rfl, by simp [answered]⟩))
      · exact .inr (.inl ⟨suggestion, by simp [answered], by simp [answered]⟩)

/-- Where there are names, they follow from the request or from a suggestion. -/
theorem Resolver.eq_of_resolve {resolver : Resolver σ} {r : Request} {s s' : σ} {naming : Naming}
    (h : resolver.resolve r s = (.ok naming, s')) :
    naming = ofRequest r ∨ ∃ suggestion, naming = ofSuggestion r suggestion := by
  have resolved := congrArg Prod.fst h
  obtain ⟨-, plain⟩ | ⟨suggestion, -, suggested⟩ | ⟨_, -, -, plain⟩ | ⟨_, -, -, failed⟩ :=
    resolver.resolve_cases r s
  · exact .inl (Except.ok.inj (resolved.symm.trans plain))
  · exact .inr ⟨suggestion, Except.ok.inj (resolved.symm.trans suggested)⟩
  · exact .inl (Except.ok.inj (resolved.symm.trans plain))
  · cases failed.symm.trans resolved

/-- A request gets an identifier from its own name. -/
theorem isIdentifier_ofRequest (r : Request) : IsIdentifier (ofRequest r).identifier :=
  isIdentifier_identifierOr _

/-- So it does from a suggestion. -/
theorem isIdentifier_ofSuggestion (r : Request) (s : Suggestion) :
    IsIdentifier (ofSuggestion r s).identifier := by
  simp only [ofSuggestion]
  exact isIdentifier_identifierOr _

/-- Whatever the augmentor answers, what is resolved is an identifier. -/
theorem Resolver.isIdentifier {resolver : Resolver σ} {r : Request} {s s' : σ} {naming : Naming}
    (h : resolver.resolve r s = (.ok naming, s')) : IsIdentifier naming.identifier := by
  obtain rfl | ⟨suggestion, rfl⟩ := Resolver.eq_of_resolve h
  · exact isIdentifier_ofRequest r
  · exact isIdentifier_ofSuggestion r suggestion

/-! ### Directory names -/

/-- The name of a directory is not empty and holds letters, digits, underscores and dashes only. -/
structure IsDirectoryName (s : String) : Prop where
  /-- It is not empty. -/
  ne_empty : s ≠ ""
  /-- It holds what may stand in a directory name. -/
  isDirectoryChar : ∀ c ∈ s.toList, isDirectoryChar c = true

/-- A directory name goes one step down. -/
theorem IsDirectoryName.isName {s : String} (h : IsDirectoryName s) : Path.IsName s := by
  have notMem {c : Char} (hc : Naming.isDirectoryChar c = false) : c ∉ s.toList :=
    fun hs ↦ by rw [h.isDirectoryChar c hs] at hc; cases hc
  have dot : '.' ∉ s.toList := notMem (by decide)
  refine ⟨fun he ↦ h.ne_empty (String.toList_inj.1 he), fun he ↦ dot ?_, fun he ↦ dot ?_,
    notMem (by decide)⟩ <;>
  · rw [he]
    exact List.mem_cons_self

/-- What may stand in a directory name is neither a dot nor a slash. -/
theorem isDirectoryChar_of_mem_directory {name : String} {c : Char}
    (h : c ∈ (directory name).toList) : isDirectoryChar c = true := by
  rw [directory, String.toList_ofList, List.mem_map] at h
  obtain ⟨d, -, rfl⟩ := h
  split
  next kept => exact kept
  next => decide

theorem isDirectoryName_directory {name : String} (ne : directory name ≠ "") :
    IsDirectoryName (directory name) :=
  ⟨ne, fun _ ↦ isDirectoryChar_of_mem_directory⟩

end Toolsmith.Naming
