import Mathlib.Data.List.Basic
import Toolsmith.Files

/-!
# Paths below paths

An entry below a path is named by the path and the names that lead to it from there, or by a
written path that is continued in writing. Both lead to the same place.

## Main definitions

* `Path.descend`: the path of an entry some names below.
* `Files.EmptyBelow`: nothing stands below a path.

## Main statements

* `Files.locate_descend`, `Files.detours_descend`: where an entry below is, and what its path leads
  through.
* `Files.locate_join`, `Files.detours_join`: a name that is joined to a written path leads below it.
-/

namespace Toolsmith

namespace Path

/-- The path of an entry some names below. -/
def descend (p : Path) (names : List String) : Path :=
  { p with below := p.below ++ names }

variable (p : Path)

@[simp] theorem descend_nil : p.descend [] = p := by
  rw [descend, List.append_nil]

/-- Different names lead to different paths. -/
theorem descend_injective : Function.Injective p.descend :=
  fun _ _ h ↦ List.append_cancel_left (congrArg Path.below h)

/-- Entries below one path are in the order of the names that lead to them. -/
theorem below_descend_lt_iff {names other : List String} :
    (p.descend names).below < (p.descend other).below ↔ names < other := by
  rw [descend, descend]
  induction p.below with
  | nil => rfl
  | cons name above ih =>
    rw [List.cons_append, List.cons_append, List.cons_lt_cons_iff, ih]
    simp

theorem child_eq_descend (name : String) : p.child name = p.descend [name] := rfl

/-- Names below may be followed in two steps. -/
theorem descend_descend (names other : List String) :
    (p.descend names).descend other = p.descend (names ++ other) := by
  simp only [descend, List.append_assoc]

theorem child_descend (name : String) (names : List String) :
    (p.child name).descend names = p.descend (name :: names) := by
  rw [child_eq_descend, descend_descend, List.singleton_append]

theorem descend_child (names : List String) (name : String) :
    (p.descend names).child name = p.descend (names ++ [name]) := by
  rw [child_eq_descend, descend_descend]

@[simp] theorem getLast?_below_child (name : String) :
    (p.child name).below.getLast? = some name :=
  List.getLast?_concat

/-- Paths of different last names are different. -/
theorem child_injective {q : Path} {name other : String} (h : p.child name = q.child other) :
    name = other := by
  have lasts := congrArg (fun p : Path ↦ p.below.getLast?) h
  simp only [getLast?_below_child, Option.some.injEq] at lasts
  exact lasts

/-! ### Written paths -/

/-- A name goes one step down. -/
structure IsName (name : String) : Prop where
  /-- It is not empty. -/
  ne_empty : name.toList ≠ []
  /-- It does not stay. -/
  ne_dot : name.toList ≠ ['.']
  /-- It does not go up. -/
  ne_dots : name.toList ≠ ['.', '.']
  /-- It is not several names. -/
  slash_notMem : '/' ∉ name.toList

instance (name : String) : Decidable (IsName name) :=
  decidable_of_iff (name.toList ≠ [] ∧ name.toList ≠ ['.'] ∧ name.toList ≠ ['.', '.'] ∧
    '/' ∉ name.toList)
    ⟨fun ⟨empty, dot, dots, slash⟩ ↦ ⟨empty, dot, dots, slash⟩,
      fun ⟨empty, dot, dots, slash⟩ ↦ ⟨empty, dot, dots, slash⟩⟩

variable {names : List String} {name : String}

/-- To follow the name of an entry is to go down to it. -/
theorem followStep_name (h : IsName name) (names : List String) :
    followStep names name.toList = names ++ [name] := by
  rw [followStep, if_neg (not_or.2 ⟨h.ne_empty, h.ne_dot⟩), if_neg h.ne_dots,
    String.ofList_toList]

theorem isAbsolute_name (h : IsName name) : isAbsolute name = false := by
  rw [isAbsolute, decide_eq_false_iff_not]
  intro hs
  exact h.slash_notMem (List.mem_of_mem_head? hs)

/-- The pieces of a written path that a name is joined to are those of the path, but for an empty
one at the end, and the name. -/
theorem exists_pieces_join (h : IsName name) (dir : String) :
    ∃ pieces, (join dir name).toList.splitOn '/' = pieces ++ [name.toList] ∧
      (dir.toList.splitOn '/' = pieces ∨ dir.toList.splitOn '/' = pieces ++ [[]]) := by
  have single : name.toList.splitOn '/' = [name.toList] := List.splitOn_eq_singleton h.slash_notMem
  rw [join, isAbsolute_name h, if_neg Bool.false_ne_true]
  split
  next hd =>
    rcases hd with empty | slash
    · refine ⟨[], ?_, .inr ?_⟩
      · rw [String.isEmpty_iff.1 empty, String.empty_append, single, List.nil_append]
      · rw [String.isEmpty_iff.1 empty]
        rfl
    · -- The name is put after the slash that is there.
      obtain ⟨cs, hcs⟩ := List.getLast?_eq_some_iff.1 slash
      refine ⟨cs.splitOn '/', ?_, .inr ?_⟩
      · rw [String.toList_append, hcs, List.append_assoc, List.singleton_append,
          List.splitOn_append_cons_self, single]
      · rw [hcs, List.splitOn_append_cons_self, List.splitOn_nil]
  next =>
    refine ⟨dir.toList.splitOn '/', ?_, .inl rfl⟩
    have slash : "/".toList = ['/'] := rfl
    rw [String.toList_append, String.toList_append, slash, List.append_assoc,
      List.singleton_append, List.splitOn_append_cons_self, single]

/-- A path that is continued by the name of an entry leads there. -/
theorem follow_join (h : IsName name) (dir : String) :
    follow names (join dir name) = follow names dir ++ [name] := by
  obtain ⟨pieces, joined, written | written⟩ := exists_pieces_join h dir
  · rw [follow, follow, joined, written, List.foldl_append]
    exact followStep_name h _
  · rw [follow, follow, joined, written, List.foldl_append, List.foldl_append]
    exact followStep_name h _

/-! ### Detours -/

/-- The turns of a path are those of its beginning and those of the rest, from where the beginning
leads. -/
theorem turns_append (names : List String) (pieces more : List (List Char)) :
    turns names (pieces ++ more) =
      turns names pieces ++ turns (pieces.foldl followStep names) more := by
  induction pieces generalizing names with
  | nil => rfl
  | cons piece pieces ih =>
    rw [List.cons_append, turns, turns, ih, List.foldl_cons]
    split
    · exact (List.cons_append ..).symm
    · rfl

theorem turns_singleton {piece : List Char} (h : piece ≠ ['.', '.']) (names : List String) :
    turns names [piece] = [] := by
  rw [turns, if_neg h]
  rfl

/-- Nobody goes up for a name that is joined. -/
theorem turns_join (h : IsName name) (dir : String) :
    turns names ((join dir name).toList.splitOn '/') = turns names (dir.toList.splitOn '/') := by
  obtain ⟨pieces, joined, written | written⟩ := exists_pieces_join h dir
  · rw [joined, written, turns_append, turns_singleton h.ne_dots, List.append_nil]
  · rw [joined, written, turns_append, turns_append, turns_singleton h.ne_dots,
      turns_singleton (by decide)]

/-- A path that is continued begins where it began. -/
theorem isAbsolute_join (h : IsName name) (dir : String) :
    isAbsolute (join dir name) = isAbsolute dir := by
  have plain := isAbsolute_name h
  rw [join, plain, if_neg Bool.false_ne_true]
  cases hd : dir.toList with
  | nil =>
    have empty : dir = "" := String.toList_inj.1 hd
    simpa [empty, isAbsolute] using plain
  | cons c cs => split <;> simp [isAbsolute, hd]

end Path

namespace Files

variable (fs : Files)

/-- The path of what is below stands for the names of the directory and those below. -/
theorem locate_descend (p : Path) (names : List String) :
    fs.locate (p.descend names) = fs.locate p ++ names :=
  (List.append_assoc _ p.below names).symm

/-- The path of an entry stands for the names of its directory and its own. -/
theorem locate_child (p : Path) (name : String) :
    fs.locate (p.child name) = fs.locate p ++ [name] :=
  fs.locate_descend p [name]

/-- Names below are followed down only. -/
@[simp] theorem detours_descend (p : Path) (names : List String) :
    fs.detours (p.descend names) = fs.detours p := rfl

@[simp] theorem detours_child (p : Path) (name : String) :
    fs.detours (p.child name) = fs.detours p := rfl

/-- A name that is joined to a written path leads one step below it. -/
theorem locate_join {name : String} (h : Path.IsName name) (dir : String) :
    fs.locate ⟨Path.join dir name, []⟩ = fs.locate ⟨dir, []⟩ ++ [name] := by
  simp only [locate, Path.components, Path.start, List.append_nil, Path.isAbsolute_join h,
    Path.follow_join h]

/-- A path that is continued by the name of an entry makes no other detours. -/
theorem detours_join {name : String} (h : Path.IsName name) (dir : String) :
    fs.detours ⟨Path.join dir name, []⟩ = fs.detours ⟨dir, []⟩ := by
  simp only [detours, Path.detours, Path.start, Path.isAbsolute_join h, Path.turns_join h]

/-- Nothing stands below a path, which may lead nowhere itself. -/
def EmptyBelow (files : Files) (p : Path) : Prop :=
  ∀ name rest, files.get? (files.locate p ++ name :: rest) = none

/-- Where nothing stands below a directory, nothing stands below a place in it. -/
theorem EmptyBelow.child {files : Files} {p : Path} (h : files.EmptyBelow p) (name : String) :
    files.EmptyBelow (p.child name) := by
  intro next rest
  rw [locate_child, List.append_assoc]
  exact h name (next :: rest)

end Files

end Toolsmith
