import Mathlib.Data.List.Lex
import Mathlib.Data.List.Sort
import Mathlib.Data.Set.List
import Mathlib.Data.String.Basic
import Toolsmith.Proofs.Files.Walk

/-!
# The order in which a walk finds files

A directory is listed in order of name and comes before what is in it, so a walk finds everything in
the lexicographic order of the names that lead there, and nothing twice. Two walks that find the
same names therefore find them in the same order, whatever else the files hold.

## Main statements

* `Text.pairwise_sortDistinct`: a set of texts is listed in increasing order.
* `Files.pairwise_walkFrom`: what is found is in lexicographic order.
* `Files.exists_walk`: a walk finds everything below a path.
-/

namespace Toolsmith

theorem Text.pairwise_insertSorted (s : String) {ts : List String} (h : ts.Pairwise (· < ·)) :
    (insertSorted s ts).Pairwise (· < ·) := by
  induction ts with
  | nil => exact List.pairwise_singleton _ _
  | cons t ts ih =>
    obtain ⟨least, rest⟩ := List.pairwise_cons.1 h
    rw [insertSorted]
    split
    next lt =>
      refine List.pairwise_cons.2 ⟨fun u hu ↦ ?_, h⟩
      rcases List.mem_cons.1 hu with rfl | hu
      · exact lt
      · exact lt_trans lt (least u hu)
    next not_lt =>
      split
      next => exact h
      next ne =>
        have lt : t < s := lt_of_le_of_ne (le_of_not_gt not_lt) (Ne.symm ne)
        refine List.pairwise_cons.2 ⟨fun u hu ↦ ?_, ih rest⟩
        rcases (mem_insertSorted u s ts).1 hu with rfl | hu
        · exact lt
        · exact least u hu

/-- A set of texts is listed in increasing order. -/
theorem Text.pairwise_sortDistinct (texts : List String) :
    (sortDistinct texts).Pairwise (· < ·) := by
  rw [sortDistinct]
  induction texts with
  | nil => exact List.Pairwise.nil
  | cons t texts ih => exact pairwise_insertSorted t ih

namespace Files

variable {fs : Files} {n : Node}

/-- What is found stands below the path where the walk began. -/
theorem exists_below_of_mem_walkFrom {depth : Nat} {p : Path}
    (start : fs.get? (fs.locate p) = some n) {e : Path × Node} (h : e ∈ fs.walkFrom depth p n) :
    ∃ names, e.1.below = p.below ++ names := by
  obtain ⟨names, path, -⟩ := get?_of_mem_walkFrom start h
  exact ⟨names, by rw [path]; rfl⟩

/-- A directory and what is found in it are in order, if the names in it are in order and what is
found under each name is. -/
theorem pairwise_cons_flatMap {p : Path} {names : List String} {found : String → List (Path × Node)}
    (sorted : names.Pairwise (· < ·))
    (below : ∀ name, ∀ e ∈ found name, ∃ rest, e.1.below = p.below ++ name :: rest)
    (each : ∀ name, (found name).Pairwise fun d e ↦ d.1.below < e.1.below) :
    ((p, n) :: names.flatMap found).Pairwise fun d e ↦ d.1.below < e.1.below := by
  refine List.pairwise_cons.2 ⟨fun e he ↦ ?_, List.pairwise_flatMap.2 ⟨fun name _ ↦ each name, ?_⟩⟩
  · obtain ⟨name, -, he⟩ := List.mem_flatMap.1 he
    obtain ⟨rest, path⟩ := below name e he
    have longer : p.below ++ [] < p.below ++ name :: rest :=
      List.append_left_lt (List.nil_lt_cons name rest)
    rwa [List.append_nil, ← path] at longer
  · refine sorted.imp fun {name other} lt d hd e he ↦ ?_
    obtain ⟨rest, path⟩ := below name d hd
    obtain ⟨rest', path'⟩ := below other e he
    rw [path, path']
    exact List.append_left_lt (List.cons_lt_cons_iff.2 (.inl lt))

/-- What is found is in the lexicographic order of the names that lead there. -/
theorem pairwise_walkFrom {depth : Nat} {p : Path} (start : fs.get? (fs.locate p) = some n) :
    (fs.walkFrom depth p n).Pairwise fun d e ↦ d.1.below < e.1.below := by
  induction depth generalizing p n with
  | zero => exact List.Pairwise.nil
  | succ depth ih =>
    cases n with
    | file c x => exact List.pairwise_singleton _ _
    | directory =>
      rw [walkFrom]
      refine pairwise_cons_flatMap (Text.pairwise_sortDistinct _) (fun name e he ↦ ?_)
        fun name ↦ ?_
      · split at he
        next m hm =>
          obtain ⟨names, path⟩ := exists_below_of_mem_walkFrom hm he
          exact ⟨names, by rw [path, Path.child, List.append_assoc]; rfl⟩
        next => cases he
      · split
        next m hm => exact ih hm
        next => exact List.Pairwise.nil

/-- A walk finds everything at and below a path, if all of it can be reached, in order of the names
that lead there. -/
theorem exists_walk {p : Path} (passes : fs.Passes p) (there : fs.get? (fs.locate p) = some n)
    (reach : ∀ {names m}, fs.get? (fs.locate p ++ names) = some m →
      fs.Reach (fs.locate p ++ names)) :
    ∃ found : List (List String × Node),
      fs.walk p = .ok (found.map (Prod.map p.descend id)) ∧
      found.Pairwise (fun d e ↦ d.1 < e.1) ∧
      ∀ names m, (names, m) ∈ found ↔ fs.get? (fs.locate p ++ names) = some m := by
  have injective : Function.Injective (Prod.map p.descend (id : Node → Node)) :=
    p.descend_injective.prodMap Function.injective_id
  have below {e : Path × Node} (he : e ∈ fs.walkFrom (fs.depth + 1) p n) :
      ∃ names, e.1 = p.descend names ∧ fs.get? (fs.locate p ++ names) = some e.2 := by
    obtain ⟨names, path, found⟩ := get?_of_mem_walkFrom there he
    rw [path, locate_descend] at found
    exact ⟨names, path, found⟩
  -- What is found is told by the names that lead there from the path.
  obtain ⟨found, told⟩ : fs.walkFrom (fs.depth + 1) p n ∈
      Set.range (List.map (Prod.map p.descend (id : Node → Node))) := by
    rw [Set.range_list_map]
    intro e he
    obtain ⟨names, path, -⟩ := below he
    exact ⟨(names, e.2), Prod.ext path.symm rfl⟩
  have sorted := @pairwise_walkFrom fs n (fs.depth + 1) p there
  rw [← told, List.pairwise_map] at sorted
  refine ⟨found, ?_, sorted.imp p.below_descend_lt_iff.1, fun names m ↦ ?_⟩
  · have self := @reach [] n (by rw [List.append_nil]; exact there)
    rw [List.append_nil] at self
    rw [walk_eq_ok (leads_iff.2 ⟨passes, self⟩) there, told]
  · rw [← List.mem_map_of_injective injective, told]
    constructor
    · intro he
      obtain ⟨other, path, found⟩ := below he
      rw [p.descend_injective path]
      exact found
    · intro standing
      have short := length_le_depth standing
      rw [List.length_append] at short
      exact mem_walkFrom there (by omega) standing (reach standing)

end Files

end Toolsmith
