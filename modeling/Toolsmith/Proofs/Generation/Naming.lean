import Mathlib.Data.List.Nodup
import Mathlib.Data.List.Perm.Subperm
import Toolsmith.Generation.Walk
import Toolsmith.Proofs.Naming

/-!
# Numbered identifiers

An identifier that is in use gets the least number that makes it unused. There are more numbers
than identifiers in use, so the bounded search always finds one. A number holds digits only, so an
identifier is one with it as well as without.

## Main statements

* `Generation.exists_numbered_notMem`: there is a number that makes an identifier unused.
* `Generation.settle_suffix_of_mem`: the number is the least one from two on.
* `Generation.settle_suffix_notMem`: the identifier that a tool finally gets is unused.
* `Generation.isIdentifier_settle`, `Generation.isDirectoryName_folderName`: what the identifiers
  and the names of directories are made of.
-/

namespace Toolsmith.Generation

theorem numbered_injective (identifier : String) : Function.Injective (numbered identifier) := by
  intro m n h
  have digits : Nat.toDigits 10 m = Nat.toDigits 10 n := by
    rw [← Nat.toList_repr, ← Nat.toList_repr]
    have text : (identifier ++ toString m).toList = (identifier ++ toString n).toList :=
      congrArg String.toList h
    rw [String.toList_append, String.toList_append] at text
    exact List.append_cancel_left text
  rw [← Nat.ofDigitChars_ten_toDigits (n := m), digits, Nat.ofDigitChars_ten_toDigits]

variable (used : List String) (identifier : String)

/-- The search ends within its bound, passes over taken numbers only, and stops at one that is not
taken or at the bound. -/
theorem leastUnused_spec (fuel n : Nat) :
    n ≤ leastUnused used identifier fuel n ∧ leastUnused used identifier fuel n ≤ n + fuel ∧
      (∀ m, n ≤ m → m < leastUnused used identifier fuel n → numbered identifier m ∈ used) ∧
      (numbered identifier (leastUnused used identifier fuel n) ∉ used ∨
        leastUnused used identifier fuel n = n + fuel) := by
  induction fuel generalizing n with
  | zero =>
    exact ⟨Nat.le_refl n, Nat.le_refl n, fun m le lt ↦ absurd lt (Nat.not_lt.2 le), .inr rfl⟩
  | succ fuel ih =>
    rw [leastUnused]
    split
    next taken =>
      obtain ⟨later, bounded, passed, stop⟩ := ih (n + 1)
      refine ⟨Nat.le_of_succ_le later, by omega, fun m le lt ↦ ?_, stop.imp_right (by omega)⟩
      rcases Nat.eq_or_lt_of_le le with rfl | le
      · exact List.contains_iff_mem.1 taken
      · exact passed m le lt
    next free =>
      exact ⟨Nat.le_refl n, Nat.le_add_right n _, fun m le lt ↦ absurd lt (Nat.not_lt.2 le),
        .inl fun h ↦ free (List.contains_iff_mem.2 h)⟩

/-- As many tries as there are identifiers in use are enough. -/
theorem numbered_leastUnused_notMem (n : Nat) :
    numbered identifier (leastUnused used identifier used.length n) ∉ used := by
  obtain ⟨-, -, passed, free | last⟩ := leastUnused_spec used identifier used.length n
  · exact free
  · -- otherwise one identifier more than there are would be in use
    intro taken
    rw [last] at taken passed
    let candidates := (List.range (used.length + 1)).map fun i ↦ numbered identifier (n + i)
    have distinct : candidates.Nodup :=
      List.Nodup.map (fun i j h ↦ Nat.add_left_cancel (numbered_injective identifier h))
        List.nodup_range
    have inside : candidates ⊆ used := by
      intro s hs
      obtain ⟨i, hi, rfl⟩ := List.mem_map.1 hs
      rcases Nat.lt_or_eq_of_le (Nat.le_of_lt_succ (List.mem_range.1 hi)) with lt | eq
      · exact passed _ (Nat.le_add_right n i) (Nat.add_lt_add_left lt n)
      · rw [eq]
        exact taken
    have short := (distinct.subperm inside).length_le
    rw [List.length_map, List.length_range] at short
    omega

/-- Some number makes an identifier unused, and there is one that is not larger than the number of
identifiers in use and two more. -/
theorem exists_numbered_notMem :
    ∃ n, 2 ≤ n ∧ n ≤ used.length + 2 ∧ numbered identifier n ∉ used ∧
      ∀ m, 2 ≤ m → m < n → numbered identifier m ∈ used := by
  obtain ⟨le, bounded, passed, -⟩ := leastUnused_spec used identifier used.length 2
  exact ⟨_, le, by omega, numbered_leastUnused_notMem used identifier 2, passed⟩

/-- An identifier in use is followed by the least number from two on that makes it unused. -/
theorem settle_suffix_of_mem {identifier : String} (h : identifier ∈ used) {n : Nat} (le : 2 ≤ n)
    (free : numbered identifier n ∉ used)
    (passed : ∀ m, 2 ≤ m → m < n → numbered identifier m ∈ used) :
    settle .suffix used identifier = numbered identifier n := by
  obtain ⟨le', -, passed', -⟩ := leastUnused_spec used identifier used.length 2
  have free' := numbered_leastUnused_notMem used identifier 2
  rw [settle, if_pos (List.contains_iff_mem.2 h)]
  -- Of two least numbers, neither is less than the other.
  rcases Nat.lt_trichotomy (leastUnused used identifier used.length 2) n with lt | same | lt
  · exact absurd (passed _ le' lt) free'
  · rw [same]
  · exact absurd (passed' n le lt) free

/-- An unused identifier stays as it is. -/
theorem settle_suffix_of_notMem {identifier : String} (h : identifier ∉ used) :
    settle .suffix used identifier = identifier := by
  rw [settle, if_neg (mt List.contains_iff_mem.1 h)]

/-- The identifier that a tool finally gets is unused where equal identifiers are numbered. -/
theorem settle_suffix_notMem : settle .suffix used identifier ∉ used := by
  rw [settle]
  split
  next => exact numbered_leastUnused_notMem used identifier 2
  next free => exact fun h ↦ free (List.contains_iff_mem.2 h)

variable {identifier}

/-- What an identifier keeps with any number it keeps when it is settled. -/
@[elab_as_elim]
theorem settle_induction {motive : String → Prop} (collision : Collision)
    (plain : motive identifier) (more : ∀ n, motive (numbered identifier n)) :
    motive (settle collision used identifier) := by
  cases collision with
  | overwrite => exact plain
  | suffix =>
    rw [settle]
    split
    · exact more _
    · exact plain

theorem settle_ne_empty (collision : Collision) (h : identifier ≠ "") :
    settle collision used identifier ≠ "" := by
  refine settle_induction used collision h fun n he ↦ h ?_
  have chars := congrArg String.toList he
  rw [numbered, String.toList_append] at chars
  exact String.toList_inj.1 (List.append_eq_nil_iff.1 chars).1

/-- An identifier is one with any number. -/
theorem isIdentifier_settle (collision : Collision) (h : Naming.IsIdentifier identifier) :
    Naming.IsIdentifier (settle collision used identifier) := by
  refine ⟨settle_ne_empty used collision h.ne_empty, ?_⟩
  refine settle_induction used collision h.isAlphanum fun n ↦ ?_
  rw [numbered, String.toList_append, Nat.toString_eq_repr, Nat.toList_repr]
  refine List.forall_mem_append.2 ⟨h.isAlphanum, fun c hc ↦ ?_⟩
  have digit := Nat.isDigit_of_mem_toDigits (by decide) (by decide) hc
  rw [Char.isAlphanum, digit, Bool.or_true]

/-! ### Names of files and directories -/

theorem isName_fileName {a : Artifact} (h : Naming.IsIdentifier a.name) :
    Path.IsName a.fileName := by
  have chars : a.fileName.toList = a.name.toList ++ ".json".toList := by
    simp [Artifact.fileName, Artifact.extension]
  have longer {cs : List Char} (short : cs.length < 5) : a.fileName.toList ≠ cs := by
    rintro rfl
    rw [chars, List.length_append] at short
    exact absurd short (Nat.not_lt.2 (Nat.le_add_left 5 _))
  refine ⟨longer (by decide), longer (by decide), longer (by decide), ?_⟩
  rw [chars, List.mem_append]
  exact not_or.2 ⟨h.slash_notMem, by decide⟩

theorem isDirectoryName_folderName (name : Option String) :
    Naming.IsDirectoryName (folderName name) := by
  have unnamed : Naming.IsDirectoryName unnamedFolder := ⟨by decide, List.all_eq_true.1 (by decide)⟩
  rw [folderName]
  split
  next directory named =>
    obtain ⟨written, -, rfl⟩ := Option.map_eq_some_iff.1 named
    split
    next => exact unnamed
    next ne => exact Naming.isDirectoryName_directory fun he ↦ ne (by rw [he]; rfl)
  next => exact unnamed

end Toolsmith.Generation
