import Toolsmith.Proofs.Files.Walk
import Toolsmith.Proofs.Generation.Written

/-!
# The files of a walk

Below the directory of the tools stand the files that a walk wrote, each with the text of its
tool, and no others. That is so from the first directory on, and it stays so whatever directories
are made, whatever tools are written and whatever is written elsewhere.

## Main definitions

* `Generation.Stored`: the files below a directory are those of some tools.

## Main statements

* `Stored.start`: an empty directory.
* `Stored.grows`, `Stored.put`, `Stored.elsewhere`: what keeps the files those of the tools.
-/

namespace Toolsmith.Generation

open Files (Content Grows Puts)

/-! ### Files stored -/

/-- Below a directory, which is there, stand the files of some tools and no others, and whatever
stands there can be reached. -/
structure Stored (files : Files) (root : Path) (ws : List Written) : Prop where
  /-- The path of the directory passes. -/
  passes : files.Passes root
  /-- The directory is there. -/
  directory : files.get? (files.locate root) = some .directory
  /-- The directory and what stands below it can be reached. -/
  reach : ∀ below, files.get? (files.locate root ++ below) ≠ none →
    files.Reach (files.locate root ++ below)
  /-- The file of each tool stands below, with its text. -/
  file : ∀ w ∈ ws, ∃ below x, w.path = root.descend below ∧
    files.get? (files.locate root ++ below) = some (.file (.text w.artifact.render) x)
  /-- There are no other files below. -/
  only : ∀ below content x, files.get? (files.locate root ++ below) = some (.file content x) →
    ∃ w ∈ ws, w.path = root.descend below

namespace Stored

variable {files files' : Files} {root : Path} {ws : List Written}

/-- The path of what stands below leads there. -/
theorem leads_descend (h : Stored files root ws) {below : List String}
    (there : files.get? (files.locate root ++ below) ≠ none) :
    files.Leads (root.descend below) :=
  Files.leads_descend_iff.2 ⟨h.passes, h.reach below there⟩

theorem leads (h : Stored files root ws) : files.Leads root := by
  have there := h.directory
  rw [← List.append_nil (files.locate root)] at there
  rw [← root.descend_nil]
  exact h.leads_descend (there ▸ Option.some_ne_none _)

/-- A directory that was made where nothing stood, or in which nothing stood, holds no files. -/
theorem start (empty : files.EmptyBelow root) (more : files.Grows files')
    (leads : files'.Leads root) (directory : files'.get? (files.locate root) = some .directory) :
    Stored files' root [] := by
  have at_ : files'.locate root = files.locate root := by rw [more.locate_eq]
  refine ⟨leads.passes, by rw [at_]; exact directory, fun below there ↦ ?_,
    fun _ h ↦ absurd h List.not_mem_nil, fun below content x there ↦ ?_⟩
  · cases below with
    | nil =>
      rw [List.append_nil]
      exact leads.reach
    | cons name rest =>
      rw [at_] at there ⊢
      obtain ⟨n, hn⟩ := Option.ne_none_iff_exists'.1 there
      exact (more.new (empty name rest) hn).2
  · rw [at_] at there
    cases below with
    | nil =>
      rw [List.append_nil, directory] at there
      cases there
    | cons name rest => cases (more.new (empty name rest) there).1

/-- Making directories leaves the files alone. -/
theorem grows (h : Stored files root ws) (more : files.Grows files') : Stored files' root ws := by
  have at_ : files'.locate root = files.locate root := by rw [more.locate_eq]
  refine ⟨more.passes_mono h.passes, ?_, fun below there ↦ ?_, fun w hw ↦ ?_,
    fun below content x there ↦ ?_⟩
  · rw [at_]
    exact more.kept h.directory
  · rw [at_] at there ⊢
    -- What stands below was reached before, or it is a new directory.
    cases before : files.get? (files.locate root ++ below) with
    | some n => exact more.reach_mono (h.reach below (by rw [before]; exact Option.some_ne_none n))
    | none =>
      obtain ⟨n, hn⟩ := Option.ne_none_iff_exists'.1 there
      exact (more.new before hn).2
  · obtain ⟨below, x, path, there⟩ := h.file w hw
    exact ⟨below, x, path, by rw [at_]; exact more.kept there⟩
  · rw [at_] at there
    exact h.only below content x (more.file there)

/-- Putting a file elsewhere leaves the files below alone. -/
theorem elsewhere (h : Stored files root ws) {p : Path} {content : Content}
    (put : files.Puts files' p content)
    (apart : ∀ below, files.locate p ≠ files.locate root ++ below) : Stored files' root ws := by
  have at_ : files'.locate root = files.locate root := by rw [put.locate_eq]
  have same (below : List String) : files'.get? (files.locate root ++ below) =
      files.get? (files.locate root ++ below) := put.get?_of_ne (apart below)
  refine ⟨h.passes.mono put.here fun _ ↦ put.directory, ?_, fun below there ↦ ?_, fun w hw ↦ ?_,
    fun below content x there ↦ ?_⟩
  · rw [at_]
    exact put.directory h.directory
  · rw [at_] at there ⊢
    rw [same] at there
    exact put.reach_mono (h.reach below there)
  · obtain ⟨below, x, path, there⟩ := h.file w hw
    exact ⟨below, x, path, by rw [at_, same, there]⟩
  · rw [at_, same] at there
    exact h.only below content x there

/-- Writing the file of a tool puts it among the files. -/
theorem put (h : Stored files root ws) (distinct : (ws.map (·.path)).Nodup) {file : Written}
    {below : List String} (path : file.path = root.descend below)
    (put : files.Puts files' file.path (.text file.artifact.render)) :
    Stored files' root (Summary.put file ws) := by
  have at_ : files'.locate root = files.locate root := by rw [put.locate_eq]
  have place : files.locate file.path = files.locate root ++ below := by
    rw [path, Files.locate_descend]
  obtain ⟨y, here⟩ := put.get?_self
  rw [place] at here
  -- At every place below but that of the file, the files are as they were.
  have same {other : List String} (ne : below ≠ other) :
      files'.get? (files.locate root ++ other) = files.get? (files.locate root ++ other) :=
    put.get?_of_ne fun he ↦ ne (List.append_cancel_left (place.symm.trans he))
  refine ⟨h.passes.mono put.here fun _ ↦ put.directory, ?_, fun other there ↦ ?_, fun w hw ↦ ?_,
    fun other content x there ↦ ?_⟩
  · rw [at_]
    exact put.directory h.directory
  · rw [at_] at there ⊢
    by_cases he : below = other
    · rw [← he, ← place]
      exact put.reach_mono put.leads.reach
    · rw [same he] at there
      exact put.reach_mono (h.reach other there)
  · rcases (Summary.mem_put distinct).1 hw with rfl | ⟨hw, apart⟩
    · exact ⟨below, y, path, by rw [at_]; exact here⟩
    · obtain ⟨other, x, path', there⟩ := h.file w hw
      refine ⟨other, x, path', ?_⟩
      rw [at_, same, there]
      rintro rfl
      exact apart (path'.trans path.symm)
  · rw [at_] at there
    by_cases he : below = other
    · exact ⟨file, (Summary.mem_put distinct).2 (.inl rfl), he ▸ path⟩
    · rw [same he] at there
      obtain ⟨w, hw, path'⟩ := h.only other content x there
      refine ⟨w, (Summary.mem_put distinct).2 (.inr ⟨hw, fun hp ↦ he ?_⟩), path'⟩
      exact root.descend_injective ((path.symm.trans hp.symm).trans path')

end Stored

/-! ### Files written one after the other -/

/-- The files of some tools were written one after the other, and nothing else was done but to make
directories. -/
inductive Lays : Files → List Written → Files → Prop
  /-- Nothing was done. -/
  | nil {files : Files} : Lays files [] files
  /-- Directories were made first. -/
  | grow {files files₁ files' : Files} {fs : List Written} (more : files.Grows files₁)
      (later : Lays files₁ fs files') : Lays files fs files'
  /-- A file was written first. -/
  | put {files files₁ files' : Files} {f : Written} {fs : List Written}
      (put : files.Puts files₁ f.path (.text f.artifact.render))
      (later : Lays files₁ fs files') : Lays files (f :: fs) files'

/-- The file of a tool is there with its text, where its path leads. -/
structure Held (files : Files) (f : Written) : Prop where
  /-- Its path leads there. -/
  leads : files.Leads f.path
  /-- It is there. -/
  there : ∃ x, files.get? (files.locate f.path) = some (.file (.text f.artifact.render) x)

section Lays

variable {files files' : Files} {root : Path} {ws fs : List Written} {f : Written}

theorem Lays.locate_eq (h : Lays files fs files') : files'.locate = files.locate := by
  induction h with
  | nil => rfl
  | grow more _ ih => exact ih.trans more.locate_eq
  | put put _ ih => exact ih.trans put.locate_eq

/-- No directory goes away. -/
theorem Lays.directory {names : List String} (h : Lays files fs files')
    (there : files.get? names = some .directory) : files'.get? names = some .directory := by
  induction h with
  | nil => exact there
  | grow more _ ih => exact ih (more.kept there)
  | put put _ ih => exact ih (put.directory there)

/-- Files that are laid may be laid in two steps. -/
theorem Lays.split {more : List Written} (h : Lays files (fs ++ more) files') :
    ∃ mid, Lays files fs mid ∧ Lays mid more files' := by
  generalize whole : fs ++ more = all at h
  induction h generalizing fs with
  | nil =>
    obtain ⟨rfl, rfl⟩ := List.append_eq_nil_iff.1 whole
    exact ⟨_, .nil, .nil⟩
  | grow grows _ ih =>
    obtain ⟨mid, first, rest⟩ := ih whole
    exact ⟨mid, .grow grows first, rest⟩
  | put put later ih =>
    cases fs with
    | nil =>
      obtain rfl : more = _ := whole
      exact ⟨_, .nil, .put put later⟩
    | cons g fs =>
      obtain ⟨rfl, rest⟩ := List.cons.inj whole
      obtain ⟨mid, first, rest⟩ := ih rest
      exact ⟨mid, .put put first, rest⟩

/-- The first file was written after some directories were made. -/
theorem Lays.uncons (h : Lays files (f :: fs) files') :
    ∃ before after : Files, before.Puts after f.path (.text f.artifact.render) ∧
      Lays after fs files' := by
  generalize whole : f :: fs = all at h
  induction h with
  | nil => cases whole
  | grow _ _ ih => exact ih whole
  | put put later =>
    obtain ⟨rfl, rfl⟩ := List.cons.inj whole
    exact ⟨_, _, put, later⟩

/-- What is stored below a directory afterwards. -/
theorem Stored.lays (h : Stored files root ws) (distinct : (ws.map (·.path)).Nodup)
    (below : ∀ f ∈ fs, ∃ names, f.path = root.descend names) (lays : Lays files fs files') :
    Stored files' root (Summary.putAll ws fs) := by
  induction lays generalizing ws with
  | nil => exact h
  | grow more _ ih => exact ih (h.grows more) distinct below
  | put put _ ih =>
    obtain ⟨⟨names, path⟩, rest⟩ := List.forall_mem_cons.1 below
    exact ih (h.put distinct path put) (Summary.nodup_paths_put distinct _) rest

theorem Held.grows (h : Held files f) (more : files.Grows files') : Held files' f := by
  obtain ⟨leads, x, there⟩ := h
  refine ⟨more.leads_mono leads, x, ?_⟩
  rw [more.locate_eq]
  exact more.kept there

/-- A file is held on while another one is put. -/
theorem Held.elsewhere (h : Held files f) {p : Path} {content : Content}
    (put : files.Puts files' p content) (apart : files.locate p ≠ files.locate f.path) :
    Held files' f := by
  obtain ⟨leads, x, there⟩ := h
  refine ⟨put.leads_mono leads, x, ?_⟩
  rw [put.locate_eq, put.get?_of_ne apart, there]

theorem held_of_puts (put : files.Puts files' f.path (.text f.artifact.render)) :
    Held files' f := by
  obtain ⟨leads, there⟩ := put.placed
  exact ⟨leads, there⟩

/-- A file stays as long as no other one is written at its place. -/
theorem Held.lays (h : Held files f) (lays : Lays files fs files')
    (apart : ∀ g ∈ fs, files.locate g.path ≠ files.locate f.path) : Held files' f := by
  induction lays with
  | nil => exact h
  | grow more _ ih => exact ih (h.grows more) (by rwa [more.locate_eq])
  | put put _ ih =>
    obtain ⟨first, rest⟩ := List.forall_mem_cons.1 apart
    exact ih (h.elsewhere put first) (by rwa [put.locate_eq])

/-- The last file that was written at a path is there in the end, whatever was there before. -/
theorem Lays.held (lays : Lays files fs files')
    (below : ∀ f ∈ fs, ∃ names, f.path = root.descend names)
    (last : Stands (· = f) (·.path = f.path) fs) : Held files' f := by
  obtain ⟨before, f, after, rfl, rfl, later⟩ := last
  obtain ⟨_, -, rest⟩ := lays.split
  obtain ⟨_, mid, put, rest⟩ := rest.uncons
  refine (held_of_puts put).lays rest fun g hg same ↦ later g hg ?_
  -- Files of other paths below the directory stand at other places.
  obtain ⟨names, path⟩ := below g (List.mem_append_right _ (List.mem_cons_of_mem _ hg))
  obtain ⟨names', path'⟩ := below f (List.mem_append_right _ List.mem_cons_self)
  rw [path, path', Files.locate_descend, Files.locate_descend] at same
  rw [path, path', List.append_cancel_left same]

end Lays

end Toolsmith.Generation
