import Toolsmith.Proofs.Generation.Extras
import Toolsmith.Proofs.Generation.Walk

/-!
# Walks that succeed

A walk to which the directories of its folders are there already succeeds if no directory is in the
way of its files: whatever it writes, no directory goes away and none comes into the way. That is so
where the files of another walk stand at the paths of its files.

## Main definitions

* `Generation.Clear`: nothing is in the way of a walk.

## Main statements

* `Generation.Walker.steps_of_places`: a walk succeeds if nothing is in its way.
* `Generation.Walked.clear`: nothing is in the way where the files stand already.
-/

namespace Toolsmith.Generation

open Collection (Item Request)

variable {σ : Type} {walker : Walker σ} {s : Summary} {w : World σ} {root : Path}
  {nodes : List (Item × List String)} {placed : List Placement} {files files' : Files}

/-- The directories of the folders of a walk are there, no directory is in the way of its files, and
nothing happens to operations. -/
structure Clear (files : Files) (root : Path) (nodes : List (Item × List String))
    (placed : List Placement) : Prop where
  /-- Nothing happens. -/
  healthy : files.faults = []
  /-- The directory of each folder is there, where its path leads. -/
  folder : ∀ e ∈ nodes, ∀ names, directory? e = some names →
    files.Leads (root.descend names) ∧
      files.get? (files.locate (root.descend names)) = some .directory
  /-- The path of each file leads somewhere, and no directory is there. -/
  tool : ∀ p ∈ placed, files.Leads (p.file root).path ∧
    files.get? (files.locate (p.file root).path) ≠ some .directory

namespace Clear

/-- Writing a file leaves nothing in the way. -/
theorem put (h : Clear files root nodes placed) {p : Path} {content : Files.Content}
    (put : files.Puts files' p content) (healthy : files'.faults = []) :
    Clear files' root nodes placed := by
  refine ⟨healthy, fun e he names dir ↦ ?_, fun p hp ↦ ?_⟩
  · obtain ⟨leads, there⟩ := h.folder e he names dir
    rw [put.locate_eq]
    exact ⟨put.leads_mono leads, put.directory there⟩
  · obtain ⟨leads, free⟩ := h.tool p hp
    rw [put.locate_eq]
    exact ⟨put.leads_mono leads, put.ne_directory free⟩

theorem tail {e : Item × List String} (h : Clear files root (e :: nodes) placed) :
    Clear files root nodes placed :=
  ⟨h.healthy, fun d hd ↦ h.folder d (List.mem_cons_of_mem e hd), h.tool⟩

theorem tool_tail {p : Placement} (h : Clear files root nodes (p :: placed)) :
    Clear files root nodes placed :=
  ⟨h.healthy, h.folder, fun q hq ↦ h.tool q (List.mem_cons_of_mem p hq)⟩

end Clear

/-- The step of a request succeeds if no directory is in the way of its file, which it writes. -/
theorem Walker.step_tool_of_free {r : Request} {folders : List String} {naming : Naming}
    {a : Artifact} {mid : σ} {p : Placement}
    (resolved : walker.resolver.resolve r w.service = (.ok naming, mid))
    (compiled : Compile.artifact? r naming = some a)
    (made : p = {
      request := r, folders, naming
      artifact := { a with name := settle walker.collision s.identifiers a.name } })
    (healthy : w.files.faults = []) (leads : w.files.Leads (p.file root).path)
    (free : w.files.get? (w.files.locate (p.file root).path) ≠ some .directory) :
    ∃ files', (walker.step s (.tool r (root.descend folders))).perform w =
        (.ok (s.add (p.file root)), { files := files', service := mid }) ∧
      w.files.Puts files' (p.file root).path (.text p.artifact.render) ∧ files'.faults = [] := by
  obtain ⟨⟨files', service⟩, written, whole⟩ :=
    Job.writeFile_of_leads (w := { w with service := mid }) healthy leads free p.artifact.render
  obtain ⟨put, rfl⟩ := Job.writeFile_eq_ok written
  refine ⟨files', ?_, put, whole⟩
  have file : p.file root = ⟨(root.descend p.folders).child p.artifact.fileName, p.artifact⟩ := by
    rw [← p.path_file]
    rfl
  subst made
  refine Job.bind_of_ok (Job.resolve_of_ok resolved) ?_
  simp only [compiled]
  rw [file] at written ⊢
  exact Job.bind_of_ok written rfl

/-- Steps that lead to some tools succeed if nothing is in their way, and what is ready for the
files besides the tools stays so. -/
theorem Walker.steps_of_places {service : σ}
    (places : walker.Places s.identifiers w.service (nodes.filterMap visit?) placed service)
    (clear : Clear w.files root nodes placed) :
    ∃ s' w', (walker.steps s (nodes.map (stepAt root))).perform w = (.ok s', w') ∧
      ∀ directory, Ready w.files directory → Ready w'.files directory := by
  induction nodes generalizing s w placed with
  | nil => exact ⟨s, w, rfl, fun _ ready ↦ ready⟩
  | cons e nodes ih =>
    obtain ⟨item, folders⟩ := e
    cases item with
    | folder name children =>
      obtain ⟨leads, there⟩ := clear.folder _ List.mem_cons_self _ rfl
      have once : (walker.step s (stepAt root (.folder name children, folders))).perform w =
          (.ok { s with foldersCreated := s.foldersCreated + 1 }, w) :=
        Job.bind_of_ok (Job.makeDirectories_of_leads clear.healthy leads there) rfl
      obtain ⟨s', w', rest, ready⟩ :=
        ih (s := { s with foldersCreated := s.foldersCreated + 1 }) places clear.tail
      exact ⟨s', w', Job.bind_of_ok once rest, ready⟩
    | request r =>
      cases payload : r.payload with
      | none =>
        have idle : visit? (.request r, folders) = none := by simp [visit?, payload]
        have once : (walker.step s (stepAt root (.request r, folders))).perform w =
            (.ok { s with requestsSkipped := s.requestsSkipped + 1 }, w) := by
          simp only [stepAt, payload]
          rfl
        rw [List.filterMap_cons_none idle] at places
        obtain ⟨s', w', rest, ready⟩ :=
          ih (s := { s with requestsSkipped := s.requestsSkipped + 1 }) places clear.tail
        exact ⟨s', w', Job.bind_of_ok once rest, ready⟩
      | some q =>
        have visited : visit? (.request r, folders) = some (r, folders) := by
          simp [visit?, payload]
        rw [List.filterMap_cons_some visited] at places
        cases places with
        | @cons _ _ mid _ _ _ _ naming a placed resolved compiled later =>
          let p : Placement := {
            request := r, folders, naming
            artifact := { a with name := settle walker.collision s.identifiers a.name } }
          obtain ⟨leads, free⟩ := clear.tool p List.mem_cons_self
          obtain ⟨files', once, put, healthy⟩ :=
            Walker.step_tool_of_free resolved compiled rfl clear.healthy leads free
          have step : stepAt root (.request r, folders) = .tool r (root.descend folders) := by
            simp [stepAt, payload]
          have later : walker.Places (s.add (p.file root)).identifiers mid
              (nodes.filterMap visit?) placed service := by
            rw [Summary.identifiers_add]
            exact later
          obtain ⟨s', w', rest, ready⟩ := ih (s := s.add (p.file root)) (w := ⟨files', mid⟩) later
            (clear.tail.tool_tail.put put healthy)
          refine ⟨s', w', ?_, fun directory h ↦ ready directory (h.put put healthy)⟩
          rw [List.map_cons, step]
          exact Job.bind_of_ok once rest

/-- Nothing is in the way of a walk to which the files of another walk are there: one at the path of
each of its files, and one in the directory of each of its folders. -/
theorem Walked.clear {ws : List Written} (h : Walked root ws files) (healthy : files.faults = [])
    (folder : ∀ e ∈ nodes, ∀ names, directory? e = some names →
      ∃ f ∈ ws, ∃ name rest, f.path = root.descend (names ++ name :: rest))
    (tool : ∀ p ∈ placed, (p.file root).path ∈ ws.map (·.path)) :
    Clear files root nodes placed := by
  -- Each file can be reached, and so can the directories that lead there.
  have file {f : Written} (hf : f ∈ ws) {names : List String}
      (path : f.path = root.descend names) : files.Reach (files.locate root ++ names) ∧
        ∃ content x, files.get? (files.locate root ++ names) = some (.file content x) := by
    obtain ⟨names', x, path', there⟩ := h.stored.file f hf
    obtain rfl := root.descend_injective (path.symm.trans path')
    exact ⟨h.stored.reach names (by rw [there]; exact Option.some_ne_none _), _, x, there⟩
  refine ⟨healthy, fun e he names dir ↦ ?_, fun p hp ↦ ?_⟩
  · obtain ⟨f, hf, name, rest, path⟩ := folder e he names dir
    have reach := (file hf path).1
    rw [← List.append_assoc] at reach
    rw [Files.leads_descend_iff, Files.locate_descend]
    exact ⟨⟨h.stored.passes, reach.of_append⟩, reach.directory⟩
  · obtain ⟨f, hf, path⟩ := List.mem_map.1 (tool p hp)
    obtain ⟨reach, content, x, there⟩ := file hf path
    rw [Placement.file, Files.leads_descend_iff, Files.locate_descend]
    refine ⟨⟨h.stored.passes, reach⟩, ?_⟩
    rw [there]
    simp

end Toolsmith.Generation
