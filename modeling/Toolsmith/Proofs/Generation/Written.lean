import Mathlib.Data.List.Induction
import Mathlib.Data.List.Nodup
import Toolsmith.Generation.Walk
import Toolsmith.Proofs.History
import Toolsmith.Proofs.Table

/-!
# Files in a summary

A summary keeps the paths of the files apart from their tools and finds a path by an index. What it
keeps is one list of files, and a file that was written is put among them: in the place of the one
that had its path, or at the end.

## Main definitions

* `Summary.put`, `Summary.putAll`: files with one or several put among them.

## Main statements

* `Summary.written_add`: what a summary does with a file is to put it among the others.
* `Summary.map_path_written`, `Summary.map_artifact_written`, `Summary.length_written`: the paths,
  the tools and the count are those of the files.
* `Summary.paths_putAll`: paths stand in order of first putting.
* `Summary.mem_putAll`: the file that is there in the end is the last one that was put at its path.
-/

namespace Toolsmith.Generation

namespace Summary

/-- Files with one put among them: in place where its path is there, else at the end. -/
def put (file : Written) : List Written → List Written
  | [] => [file]
  | w :: ws => if w.path = file.path then file :: ws else w :: put file ws

variable {file w : Written} {ws : List Written}

/-- A file at a new path comes last. -/
theorem put_of_notMem (h : file.path ∉ ws.map (·.path)) : put file ws = ws ++ [file] := by
  induction ws with
  | nil => rfl
  | cons w ws ih =>
    rw [List.map_cons, List.mem_cons, not_or] at h
    rw [put, if_neg (Ne.symm h.1), ih h.2, List.cons_append]

/-- A file at a path that is there takes its place. -/
theorem put_of_idxOf? {i : Nat} (h : (ws.map (·.path)).idxOf? file.path = some i) :
    put file ws = ws.set i file := by
  induction ws generalizing i with
  | nil => cases h
  | cons w ws ih =>
    rw [List.map_cons, List.idxOf?_cons] at h
    rw [put]
    by_cases he : w.path = file.path
    · rw [if_pos (beq_iff_eq.2 he)] at h
      cases h
      rw [if_pos he, List.set_cons_zero]
    · rw [if_neg (mt beq_iff_eq.1 he)] at h
      obtain ⟨j, hj, rfl⟩ := Option.map_eq_some_iff.1 h
      rw [if_neg he, ih hj, List.set_cons_succ]

/-- The paths keep their order, and a new one comes last. -/
theorem paths_put (file : Written) (ws : List Written) :
    (put file ws).map (·.path) = if file.path ∈ ws.map (·.path) then ws.map (·.path)
      else ws.map (·.path) ++ [file.path] := by
  induction ws with
  | nil => rfl
  | cons w ws ih =>
    rw [put]
    by_cases h : w.path = file.path
    · simp [h]
    · have h' : file.path ≠ w.path := Ne.symm h
      simp only [h, if_false, List.map_cons, List.mem_cons, h', false_or, ih]
      split <;> rfl

/-- The paths stay distinct. -/
theorem nodup_paths_put (h : (ws.map (·.path)).Nodup) (file : Written) :
    ((put file ws).map (·.path)).Nodup := by
  rw [paths_put]
  split
  next => exact h
  next new => exact List.nodup_append.2 ⟨h, List.nodup_singleton _, fun p hp q hq he ↦
    new (List.eq_of_mem_singleton hq ▸ he ▸ hp)⟩

/-- Putting a file takes the place of the file of its path, and of no other. -/
theorem mem_put (h : (ws.map (·.path)).Nodup) :
    w ∈ put file ws ↔ w = file ∨ w ∈ ws ∧ w.path ≠ file.path := by
  induction ws with
  | nil => simp [put]
  | cons v ws ih =>
    rw [List.map_cons, List.nodup_cons] at h
    rw [put]
    split
    next he =>
      have others : ∀ u ∈ ws, u.path ≠ file.path := fun u hu hp ↦
        h.1 (List.mem_map.2 ⟨u, hu, hp.trans he.symm⟩)
      rw [List.mem_cons, List.mem_cons]
      refine or_congr_right ⟨fun hw ↦ ⟨.inr hw, others w hw⟩, fun ⟨hw, hp⟩ ↦ ?_⟩
      exact hw.resolve_left fun hv ↦ hp (hv ▸ he)
    next he =>
      rw [List.mem_cons, ih h.2, List.mem_cons]
      constructor
      · rintro (rfl | rfl | ⟨hw, hp⟩)
        · exact .inr ⟨.inl rfl, he⟩
        · exact .inl rfl
        · exact .inr ⟨.inr hw, hp⟩
      · rintro (rfl | ⟨rfl | hw, hp⟩)
        · exact .inr (.inl rfl)
        · exact .inl rfl
        · exact .inr (.inr ⟨hw, hp⟩)

/-! ### What a summary keeps -/

section Kept

variable (s : Summary)

/-- The paths are those of the files. -/
theorem map_path_written : s.written.map (·.path) = s.paths := by
  rw [written, List.map_map]
  exact List.map_fst_zip (Nat.le_of_eq s.paired.symm)

/-- The tools are those of the files. -/
theorem map_artifact_written : s.written.map (·.artifact) = s.artifacts := by
  rw [written, List.map_map]
  exact List.map_snd_zip (Nat.le_of_eq s.paired)

/-- The files are counted, each one once. -/
theorem length_written : s.written.length = s.toolsWritten := by
  rw [s.counted, ← s.map_path_written, List.length_map]

/-- The file at a place has the path and the tool that stand there. -/
theorem getElem?_written {i : Nat} {p : Path} {a : Artifact} (at_ : s.paths[i]? = some p)
    (holds : s.artifacts[i]? = some a) : s.written[i]? = some ⟨p, a⟩ := by
  have both : (s.paths.zip s.artifacts)[i]? = some (p, a) :=
    List.getElem?_zip_eq_some.2 ⟨at_, holds⟩
  rw [written, List.getElem?_map, both]
  rfl

/-- A file that is appended to a summary comes last. -/
theorem written_append (file : Written) : (s.append file).written = s.written ++ [file] := by
  rw [written, append, List.zip_append s.paired.symm, List.map_append]
  rfl

/-- A file that stands at a place is exchanged there. -/
theorem written_replace {i : Nat} (artifact : Artifact) {p : Path} (at_ : s.paths[i]? = some p) :
    (s.replace i artifact).written = s.written.set i ⟨p, artifact⟩ := by
  obtain ⟨hi, rfl⟩ := List.getElem?_eq_some_iff.1 at_
  refine List.ext_getElem (by simp [written, replace]) fun j _ _ ↦ ?_
  simp only [written, replace, List.getElem_map, List.getElem_zip, List.getElem_set]
  split
  next same =>
    subst same
    rfl
  next => rfl

/-- What a summary does with a file is to put it among the others. -/
theorem written_add (file : Written) : (s.add file).written = put file s.written := by
  rw [add, s.indexed]
  rcases found : s.paths.idxOf? file.path with _ | i
  · have new : file.path ∉ s.written.map (·.path) := by
      rw [s.map_path_written]
      exact List.idxOf?_eq_none_iff.1 found
    rw [put_of_notMem new]
    exact written_append _ file
  · obtain ⟨hi, at_, -⟩ := List.idxOf?_eq_some_iff.1 found
    rw [← s.map_path_written] at found
    rw [put_of_idxOf? found]
    exact written_replace _ file.artifact (List.getElem?_eq_some_iff.2 ⟨hi, at_⟩)

@[simp] theorem identifiers_add (file : Written) :
    (s.add file).identifiers = file.artifact.name :: s.identifiers := by
  rw [add]
  split <;> rfl

@[simp] theorem foldersCreated_add (file : Written) :
    (s.add file).foldersCreated = s.foldersCreated := by
  rw [add]
  split <;> rfl

@[simp] theorem requestsSkipped_add (file : Written) :
    (s.add file).requestsSkipped = s.requestsSkipped := by
  rw [add]
  split <;> rfl

end Kept

/-! ### Several files put among files -/

/-- Files with several put among them, one after the other. -/
def putAll (ws fs : List Written) : List Written :=
  fs.foldl (fun ws f ↦ put f ws) ws

variable {fs : List Written}

/-- The last file is put in the end. -/
theorem putAll_concat (ws fs : List Written) (file : Written) :
    putAll ws (fs ++ [file]) = put file (putAll ws fs) := by
  rw [putAll, putAll, List.foldl_append, List.foldl_cons, List.foldl_nil]

/-- Paths stay distinct, whatever files are put. -/
theorem nodup_paths_putAll (h : (ws.map (·.path)).Nodup) (fs : List Written) :
    ((putAll ws fs).map (·.path)).Nodup := by
  induction fs using List.reverseRecOn with
  | nil => exact h
  | append_singleton fs file ih =>
    rw [putAll_concat]
    exact nodup_paths_put ih file

/-- The paths stand in order of first putting. -/
theorem paths_putAll (fs : List Written) :
    (putAll [] fs).map (·.path) = (fs.map (·.path)).eraseDups := by
  induction fs using List.reverseRecOn with
  | nil => rfl
  | append_singleton fs file ih =>
    rw [putAll_concat, paths_put, ih, List.map_append, List.map_singleton,
      Table.eraseDups_append_singleton]
    simp only [List.mem_eraseDups]

/-- Files of distinct paths are all kept as they are. -/
theorem putAll_of_nodup (h : ((ws ++ fs).map (·.path)).Nodup) : putAll ws fs = ws ++ fs := by
  induction fs using List.reverseRecOn with
  | nil => exact (List.append_nil ws).symm
  | append_singleton fs file ih =>
    rw [← List.append_assoc, List.map_append, List.nodup_append] at h
    obtain ⟨earlier, -, apart⟩ := h
    rw [putAll_concat, ih earlier, put_of_notMem, List.append_assoc]
    exact fun taken ↦ apart _ taken _ List.mem_cons_self rfl

/-- The file that is there in the end is the last one that was put at its path, or it was there
before and none was put at its path. -/
theorem mem_putAll (h : (ws.map (·.path)).Nodup) :
    w ∈ putAll ws fs ↔
      Stands (· = w) (·.path = w.path) fs ∨ w ∈ ws ∧ w.path ∉ fs.map (·.path) := by
  induction fs using List.reverseRecOn with
  | nil => simp [putAll, not_stands_nil]
  | append_singleton fs file ih =>
    rw [putAll_concat, mem_put (nodup_paths_putAll h fs), ih, stands_append_singleton,
      List.map_append, List.mem_append, List.map_singleton, List.mem_singleton, eq_comm (a := w),
      eq_comm (a := w.path)]
    tauto

end Summary

end Toolsmith.Generation
