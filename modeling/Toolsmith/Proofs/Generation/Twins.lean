import Toolsmith.Generation.Template
import Toolsmith.Proofs.Files.Operation

/-!
# Directories that hold the same

What an operation does below a directory depends neither on where the directory is nor on what else
there is among the files: below another directory that holds the same it either fails as well or
leaves the same behind, if the same happens to both. Two empty directories hold the same, so they do
so ever after, as long as the same is done in both.

## Main definitions

* `Generation.Bare`: an empty directory.
* `Generation.Proper`: what may belong to a server.
* `Generation.Twins`: two directories hold the same, which may belong to a server.

## Main statements

* `Generation.Twins.write`, `Generation.Twins.makeExecutable`, `Generation.Twins.makeDirectories`:
  operations below both directories.
* `Generation.Twins.bare`: empty directories.
-/

namespace Toolsmith.Generation

open Files (Content Node Operation OsError)

variable {files files' : Files} {root root' : Path} {names : List String} {n : Node}

/-! ### Empty directories -/

/-- Making a directory puts nothing below it, unless its path leads through directories there that
have to be made. -/
theorem emptyBelow_makeDirectories (passes : files.Passes root) (empty : files.EmptyBelow root)
    (made : (files.makeDirectories root).1 = .ok ()) :
    (files.makeDirectories root).2.EmptyBelow root := by
  intro name rest
  obtain ⟨grows, -, -⟩ := Files.makeDirectories_spec made
  have beyond := files.get?_makeFrom_beyond [] (files.locate root) name rest
  rw [List.nil_append] at beyond
  rw [grows.locate_eq, Files.snd_makeDirectories, Files.makeAll_goals passes]
  exact beyond.trans (empty name rest)

/-- A path leads to a directory in which nothing stands. -/
structure Bare (files : Files) (root : Path) : Prop where
  /-- The path leads there. -/
  leads : files.Leads root
  /-- The directory is there. -/
  directory : files.get? (files.locate root) = some .directory
  /-- Nothing stands in it. -/
  empty : files.EmptyBelow root

namespace Bare

/-- A directory that was made is empty if nothing stands in it then. -/
theorem of_apply (empty : (files.makeDirectories root).2.EmptyBelow root)
    (made : (Operation.makeDirectories root).apply files = (.ok (), files')) :
    Bare files' root := by
  obtain ⟨grows, leads, directory⟩ := Operation.grows_of_apply made
  obtain ⟨-, fs₁, whole, rfl⟩ := Operation.apply_eq_ok.1 made
  rw [← grows.locate_eq] at directory
  have made : files.makeDirectories root = (.ok (), fs₁) := whole
  rw [made] at empty
  exact ⟨leads, directory, empty⟩

theorem mended (h : Bare files root) : Bare files.mended root :=
  ⟨(Files.leads_withFaults ..).2 h.leads, h.directory, h.empty⟩

end Bare

/-! ### Directories that hold the same -/

/-- Whether a node may belong to a server: each name on the way to it goes one step down, a file
holds a text, and no file can be executed but the script that starts the server. -/
def Proper (names : List String) (n : Node) : Prop :=
  (∀ name ∈ names, Path.IsName name) ∧
    ∀ content x, n = .file content x →
      (∃ t, content = .text t) ∧ (x = true → names = [Template.startScript])

theorem proper_directory (isName : ∀ name ∈ names, Path.IsName name) :
    Proper names .directory :=
  ⟨isName, fun _ _ h ↦ by cases h⟩

/-- Two directories, each among files of its own, hold the same, what they hold can be reached and
may belong to a server, and the same happens to operations. -/
structure Twins (files files' : Files) (root root' : Path) : Prop where
  /-- The same happens to operations. -/
  faults : files'.faults = files.faults
  /-- The first directory is there. -/
  directory : files.get? (files.locate root) = some .directory
  /-- Its path leads there. -/
  leads : files.Leads root
  /-- The path of the second directory leads there. -/
  leads' : files'.Leads root'
  /-- The same stands below both. -/
  same : ∀ names, files.get? (files.locate root ++ names) =
    files'.get? (files'.locate root' ++ names)
  /-- What stands below can be reached. -/
  reach : ∀ {names n}, files.get? (files.locate root ++ names) = some n →
    files.Reach (files.locate root ++ names)
  /-- What stands below may belong to a server. -/
  proper : ∀ {names n}, files.get? (files.locate root ++ names) = some n → Proper names n

namespace Twins

theorem directory' (h : Twins files files' root root') :
    files'.get? (files'.locate root') = some .directory := by
  have there := h.same []
  rwa [List.append_nil, List.append_nil, h.directory, eq_comm] at there

/-- What can be reached below one directory can be reached below the other. -/
theorem reach_iff (h : Twins files files' root root') (names : List String) :
    files.Reach (files.locate root ++ names) ↔ files'.Reach (files'.locate root' ++ names) := by
  induction names using List.reverseRecOn with
  | nil =>
    rw [List.append_nil, List.append_nil]
    exact iff_of_true h.leads.reach h.leads'.reach
  | append_singleton names name ih =>
    rw [← List.append_assoc, ← List.append_assoc, Files.reach_concat, Files.reach_concat, ih,
      h.same names]

/-- A path below one directory leads somewhere if it does so below the other. -/
theorem leads_iff (h : Twins files files' root root') (names : List String) :
    files.Leads (root.descend names) ↔ files'.Leads (root'.descend names) := by
  rw [Files.leads_descend_iff, Files.leads_descend_iff, and_iff_right h.leads.passes,
    and_iff_right h.leads'.passes, h.reach_iff]

/-- Twins stay twins when the same happens to both. -/
theorem withFaults (h : Twins files files' root root') (faults : List (Option Files.Fault)) :
    Twins (files.withFaults faults) (files'.withFaults faults) root root' where
  faults := rfl
  directory := h.directory
  leads := (Files.leads_withFaults ..).2 h.leads
  leads' := (Files.leads_withFaults ..).2 h.leads'
  same := h.same
  reach there := (Files.reach_withFaults ..).2 (h.reach there)
  proper := h.proper

theorem ne_nil (h : Twins files files' root root')
    (free : files.get? (files.locate root ++ names) ≠ some .directory) : names ≠ [] := by
  rintro rfl
  rw [List.append_nil] at free
  exact free h.directory

/-- A node that is put below both directories where no directory is. -/
theorem set (h : Twins files files' root root')
    (free : files.get? (files.locate root ++ names) ≠ some .directory)
    (reached : files.Reach (files.locate root ++ names)) (proper : Proper names n) :
    Twins (files.set (files.locate root ++ names) n) (files'.set (files'.locate root' ++ names) n)
      root root' := by
  have ne := h.ne_nil free
  have kept {fs : Files} {start : List String} (free : fs.get? (start ++ names) ≠ some .directory)
      (other : List String) (there : fs.get? other = some .directory) :
      (fs.set (start ++ names) n).get? other = some .directory := by
    rw [Files.get?_set_of_ne (List.append_ne_nil_of_right_ne_nil start ne), there]
    rintro rfl
    exact free there
  have below {fs : Files} (start other : List String) :
      (fs.set (start ++ names) n).get? (start ++ other) =
        if names = other then some n else fs.get? (start ++ other) := by
    rw [Files.get?_set (List.append_ne_nil_of_right_ne_nil start ne)]
    simp only [List.append_cancel_left_eq]
  refine ⟨h.faults, kept free _ h.directory,
    h.leads.mono (files.workingDirectory_set _ _) (kept free),
    h.leads'.mono (files'.workingDirectory_set _ _) (kept (h.same names ▸ free)),
    fun other ↦ ?_, fun {other m} there ↦ ?_, fun {other m} there ↦ ?_⟩
  · rw [Files.locate_set, Files.locate_set, below, below, h.same]
  · rw [Files.locate_set, below] at there
    rw [Files.locate_set]
    split at there
    next he => exact he ▸ reached.mono (kept free)
    next => exact (h.reach there).mono (kept free)
  · rw [Files.locate_set, below] at there
    split at there
    next he =>
      cases there
      exact he ▸ proper
    next => exact h.proper there

/-! ### Operations below both directories -/

/-- A path below both directories leads somewhere in both, or in neither. -/
theorem agree_reach (h : Twins files files' root root') (names : List String) :
    Agree (fun _ _ ↦ files.Reach (files.locate root ++ names))
      (files.reach (root.descend names)) (files'.reach (root'.descend names)) := by
  have leads := h.leads_iff names
  rw [Files.Leads, Files.Leads] at leads
  rcases left : files.reach (root.descend names) with e | ⟨⟩ <;>
    rcases right : files'.reach (root'.descend names) with e' | ⟨⟩ <;>
    rw [left, right] at leads
  · exact .error
  · cases leads.2 rfl
  · cases leads.1 rfl
  · exact .ok (Files.leads_descend_iff.1 left).2

/-- Looking names up agrees in twin directories. -/
theorem agree_lookup (h : Twins files files' root root') (names : List String) :
    Agree (fun n n' ↦ n = n' ∧ files.get? (files.locate root ++ names) = some n)
      (files.lookup (root.descend names)) (files'.lookup (root'.descend names)) := by
  rw [Files.lookup, Files.lookup]
  refine (h.agree_reach names).bind fun _ _ _ ↦ ?_
  rw [Files.locate_descend, Files.locate_descend, ← h.same]
  cases files.get? (files.locate root ++ names) with
  | none => exact .error
  | some n => exact .ok ⟨rfl, rfl⟩

/-- What operations do below both directories that meet nothing. -/
theorem agree_orElse {outcome outcome' : Except OsError Files}
    (agree : Agree (fun after after' ↦ Twins after after' root root') outcome outcome') :
    Agree (fun _ _ ↦ Twins (files.orElse outcome).2 (files'.orElse outcome').2 root root')
      (files.orElse outcome).1 (files'.orElse outcome').1 := by
  cases agree with
  | ok twins => exact .ok twins
  | error => exact .error

/-- Operations that do the same below both directories where they meet nothing do so where the same
happens to them. -/
theorem apply {op op' : Operation} (h : Twins files files' root root')
    (whole : ∀ {fs fs' : Files}, Twins fs fs' root root' →
      Agree (fun _ _ ↦ Twins (op.whole fs).2 (op'.whole fs').2 root root')
        (op.whole fs).1 (op'.whole fs').1) :
    Agree (fun _ _ ↦ Twins (op.apply files).2 (op'.apply files').2 root root')
      (op.apply files).1 (op'.apply files').1 := by
  have same : files'.fault? = files.fault? := by rw [Files.fault?, Files.fault?, h.faults]
  cases meets : files.fault? with
  | none =>
    have next := h.withFaults files.faults.tail
    simp only [Operation.apply, same, meets, Files.next_eq_withFaults, h.faults]
    exact whole next
  | some fault =>
    obtain ⟨e, failed⟩ := op.apply_eq_error_of_fault meets
    obtain ⟨e', failed'⟩ := op'.apply_eq_error_of_fault (same.trans meets)
    rw [failed, failed']
    exact .error

/-- A text that is written below both directories. -/
theorem write (h : Twins files files' root root') (isName : ∀ name ∈ names, Path.IsName name)
    (text : String) :
    Agree (fun after after' ↦ Twins after after' root root')
      (files.write (root.descend names) (.text text))
      (files'.write (root'.descend names) (.text text)) := by
  rw [Files.write, Files.write]
  refine (h.agree_reach names).bind fun _ _ reached ↦ ?_
  rw [Files.locate_descend, Files.locate_descend, ← h.same]
  cases there : files.get? (files.locate root ++ names) with
  | none =>
    refine .ok (h.set (by simp [there]) reached ⟨isName, ?_⟩)
    rintro _ _ ⟨⟩
    exact ⟨⟨text, rfl⟩, Bool.noConfusion⟩
  | some n =>
    cases n with
    | directory => exact .error
    | file content x =>
      refine .ok (h.set (by simp [there]) reached ⟨isName, ?_⟩)
      rintro _ _ ⟨⟩
      exact ⟨⟨text, rfl⟩, ((h.proper there).2 content x rfl).2⟩

/-- The script is made executable in both directories. -/
theorem makeExecutable (h : Twins files files' root root') :
    Agree (fun after after' ↦ Twins after after' root root')
      (files.makeExecutable (root.descend [Template.startScript]))
      (files'.makeExecutable (root'.descend [Template.startScript])) := by
  refine (h.agree_lookup [Template.startScript]).bind ?_
  rintro n _ ⟨rfl, there⟩
  cases n with
  | directory => exact .ok h
  | file content x =>
    obtain ⟨isName, file⟩ := h.proper there
    obtain ⟨text, -⟩ := file content x rfl
    rw [Files.locate_descend, Files.locate_descend]
    refine .ok (h.set (by simp [there]) (h.reach there) ⟨isName, ?_⟩)
    rintro _ _ ⟨⟩
    exact ⟨text, fun _ ↦ rfl⟩

/-- So does making directories. -/
theorem makeFrom {passed : List String} (h : Twins files files' root root')
    (there : files.get? (files.locate root ++ passed) = some .directory)
    (isName : ∀ name ∈ names, Path.IsName name) :
    Agree (fun _ _ ↦ Twins (files.makeFrom (files.locate root ++ passed) names).2
        (files'.makeFrom (files'.locate root' ++ passed) names).2 root root')
      (files.makeFrom (files.locate root ++ passed) names).1
      (files'.makeFrom (files'.locate root' ++ passed) names).1 := by
  induction names generalizing files files' passed with
  | nil => exact .ok h
  | cons name names ih =>
    obtain ⟨first, rest⟩ := List.forall_mem_cons.1 isName
    rw [Files.makeFrom, Files.makeFrom, List.append_assoc, List.append_assoc, ← h.same]
    cases long : Files.isTooLong name with
    | true => exact .error
    | false =>
      simp only [Bool.false_eq_true, if_false]
      cases next : files.get? (files.locate root ++ (passed ++ [name])) with
      | none =>
        have reached : files.Reach (files.locate root ++ (passed ++ [name])) := by
          rw [← List.append_assoc, Files.reach_concat]
          exact ⟨h.reach there, there, long⟩
        have isName : ∀ part ∈ passed ++ [name], Path.IsName part :=
          List.forall_mem_append.2 ⟨(h.proper there).1, List.forall_mem_singleton.2 first⟩
        have made := h.set (by simp [next]) reached (n := .directory) (proper_directory isName)
        exact ih made (Files.get?_set_self (by simp)) rest
      | some n =>
        cases n with
        | directory => exact ih h next rest
        | file content x => exact .error

/-- A directory that is made below both directories, with those that lead to it. -/
theorem makeDirectories (h : Twins files files' root root')
    (isName : ∀ name ∈ names, Path.IsName name) :
    Agree (fun _ _ ↦ Twins (files.makeDirectories (root.descend names)).2
        (files'.makeDirectories (root'.descend names)).2 root root')
      (files.makeDirectories (root.descend names)).1
      (files'.makeDirectories (root'.descend names)).1 := by
  have start : files.get? (files.locate root ++ []) = some .directory := by
    rw [List.append_nil]
    exact h.directory
  have made := h.makeFrom start isName
  rw [List.append_nil, List.append_nil] at made
  -- The directories are there, so only what is below them may have to be made.
  have goals {fs : Files} {p : Path} (leads : fs.Leads p)
      (there : fs.get? (fs.locate p) = some .directory) :
      fs.makeAll (fs.goals (p.descend names)) = fs.makeFrom (fs.locate p) names := by
    rw [Files.makeAll_goals (Files.passes_descend_iff.2 leads.passes), Files.locate_descend,
      Files.makeFrom_root_append leads.reach there]
  rw [Files.makeDirectories, Files.makeDirectories, goals h.leads h.directory,
    goals h.leads' h.directory']
  exact made.mapError _ _

/-- Empty directories hold the same, which is nothing. -/
theorem bare (faults : files'.faults = files.faults) (h : Bare files root)
    (h' : Bare files' root') : Twins files files' root root' := by
  -- What stands at or below the first directory is the directory itself.
  have only {names : List String} {n : Node}
      (found : files.get? (files.locate root ++ names) = some n) : names = [] ∧ n = .directory := by
    cases names with
    | nil =>
      rw [List.append_nil, h.directory] at found
      exact ⟨rfl, (Option.some.inj found).symm⟩
    | cons name rest =>
      rw [h.empty name rest] at found
      cases found
  refine ⟨faults, h.directory, h.leads, h'.leads, fun names ↦ ?_, fun found ↦ ?_,
    fun found ↦ ?_⟩
  · cases names with
    | nil => rw [List.append_nil, List.append_nil, h.directory, h'.directory]
    | cons name rest => rw [h.empty name rest, h'.empty name rest]
  · obtain ⟨rfl, -⟩ := only found
    rw [List.append_nil]
    exact h.leads.reach
  · obtain ⟨rfl, rfl⟩ := only found
    exact proper_directory fun _ h ↦ absurd h List.not_mem_nil

end Twins

end Toolsmith.Generation
