import Toolsmith.Proofs.Generation.Placement
import Toolsmith.Proofs.Generation.Stored

/-!
# Walks of collections

A walk that succeeded came to every node in the order of the recursion. Each folder was counted and
its directory made, each request without payload was counted, and each other request led to a tool
that was written. What one step did says so for one node, and the account of a walk adds it up; what
the walk left in its summary and on the disk follows from the account.

## Main definitions

* `Generation.Walker.Account`: what a walk did.
* `Generation.Walked`: the files below a directory are those of some tools.

## Main statements

* `Walker.step_folder_eq_ok`, `Walker.step_tool_eq_ok`: what a step did.
* `Walker.account_of_steps`, `Walker.account_of_walkCollection`: what a walk did.
* `Walked.lays`: what a walk leaves below its directory.
-/

namespace Toolsmith.Generation

open Collection (Item Request)

variable {σ : Type} {walker : Walker σ} {s s₁ s' : Summary} {w w₁ w' : World σ} {root : Path}

namespace Walker

/-! ### Steps -/

/-- The step of a folder makes its directory and counts it. -/
theorem step_folder_eq_ok {path : Path}
    (h : (walker.step s (.folder path)).perform w = (.ok s', w')) :
    s' = { s with foldersCreated := s.foldersCreated + 1 } ∧ w'.service = w.service ∧
      w.files.Grows w'.files ∧ w'.files.get? (w.files.locate path) = some .directory := by
  obtain ⟨_, w₁, made, last⟩ := Job.bind_eq_ok h
  obtain ⟨rfl, rfl⟩ := Job.pure_eq_ok last
  obtain ⟨⟨grows, -, directory⟩, service⟩ := Job.makeDirectories_eq_ok made
  exact ⟨rfl, service, grows, directory⟩

/-- The step of a request with a payload writes its tool, under the names resolved for it and with
its identifier settled. -/
theorem step_tool_eq_ok {r : Request} {directory : Path} (payload : r.payload.isSome = true)
    (h : (walker.step s (.tool r directory)).perform w = (.ok s', w')) :
    ∃ naming a artifact, walker.resolver.resolve r w.service = (.ok naming, w'.service) ∧
      Compile.artifact? r naming = some a ∧
      artifact = { a with name := settle walker.collision s.identifiers a.name } ∧
      w.files.Puts w'.files (directory.child artifact.fileName) (.text artifact.render) ∧
      s' = s.add ⟨directory.child artifact.fileName, artifact⟩ := by
  obtain ⟨naming, w₁, resolved, rest⟩ := Job.bind_eq_ok h
  obtain ⟨answer, same⟩ := Job.resolve_eq_ok resolved
  cases compiled : Compile.artifact? r naming with
  | none =>
    rw [Option.map_eq_none_iff.1 compiled] at payload
    cases payload
  | some a =>
    simp only [compiled] at rest
    obtain ⟨_, w₂, written, last⟩ := Job.bind_eq_ok rest
    obtain ⟨rfl, rfl⟩ := Job.pure_eq_ok last
    -- Resolving the names did not touch the files, and writing did not touch the augmentor.
    obtain ⟨put, service⟩ := Job.writeFile_eq_ok written
    rw [same] at put
    rw [← service] at answer
    exact ⟨naming, a, _, answer, compiled, rfl, put, rfl⟩

/-! ### What a walk did -/

/-- What a walk did that came to some nodes and made some tools, from a summary and a world to
others. -/
structure Account (walker : Walker σ) (root : Path) (nodes : List (Item × List String))
    (placed : List Placement) (s : Summary) (w : World σ) (s' : Summary) (w' : World σ) :
    Prop where
  /-- The requests with a payload led to the tools. -/
  places : walker.Places s.identifiers w.service (nodes.filterMap visit?) placed w'.service
  /-- The tools were written. -/
  lays : Lays w.files (placed.map (·.file root)) w'.files
  /-- The tools were put among those of the summary. -/
  written : s'.written = Summary.putAll s.written (placed.map (·.file root))
  /-- Each folder was counted. -/
  folders : s'.foldersCreated = s.foldersCreated + nodes.countP (·.1.isFolder)
  /-- Each request without payload was counted. -/
  skipped : s'.requestsSkipped = s.requestsSkipped + nodes.countP (·.1.lacksPayload)
  /-- The directory of each folder is there. -/
  made : ∀ e ∈ nodes, ∀ names, directory? e = some names →
    w'.files.get? (w'.files.locate (root.descend names)) = some .directory

namespace Account

variable {nodes : List (Item × List String)} {placed : List Placement} {folders : List String}

theorem nil : walker.Account root [] [] s w s w :=
  ⟨.nil, .nil, rfl, rfl, rfl, fun _ he ↦ absurd he List.not_mem_nil⟩

/-- The account of a folder and of what comes after it. -/
theorem folder {name : Option String} {children : List Item}
    (once : (walker.step s (stepAt root (.folder name children, folders))).perform w =
      (.ok s₁, w₁))
    (rest : walker.Account root nodes placed s₁ w₁ s' w') :
    walker.Account root ((.folder name children, folders) :: nodes) placed s w s' w' := by
  obtain ⟨rfl, service, grows, directory⟩ := step_folder_eq_ok once
  refine ⟨service ▸ rest.places, .grow grows rest.lays, rest.written, ?_, rest.skipped, ?_⟩
  · rw [rest.folders, List.countP_cons_of_pos rfl, Nat.add_assoc, Nat.add_comm 1]
  · refine List.forall_mem_cons.2 ⟨fun names he ↦ ?_, rest.made⟩
    obtain rfl := Option.some.inj he
    rw [rest.lays.locate_eq, grows.locate_eq]
    exact rest.lays.directory directory

/-- A request makes no directory. -/
theorem made_request {r : Request} (rest : walker.Account root nodes placed s₁ w₁ s' w') :
    ∀ e ∈ (Item.request r, folders) :: nodes, ∀ names, directory? e = some names →
      w'.files.get? (w'.files.locate (root.descend names)) = some .directory :=
  List.forall_mem_cons.2 ⟨fun _ he ↦ (nomatch he), rest.made⟩

/-- The account of a request without payload and of what comes after it. -/
theorem skip {r : Request} (payload : r.payload = none)
    (once : (walker.step s (stepAt root (.request r, folders))).perform w = (.ok s₁, w₁))
    (rest : walker.Account root nodes placed s₁ w₁ s' w') :
    walker.Account root ((.request r, folders) :: nodes) placed s w s' w' := by
  have lacks : Item.lacksPayload (.request r) = true := by simp [Item.lacksPayload, payload]
  have idle : visit? (.request r, folders) = none := by simp [visit?, payload]
  simp only [stepAt, payload] at once
  obtain ⟨rfl, rfl⟩ := Job.pure_eq_ok once
  refine ⟨?_, rest.lays, rest.written, rest.folders, ?_, rest.made_request⟩
  · rw [List.filterMap_cons_none idle]
    exact rest.places
  · rw [rest.skipped, List.countP_cons, if_pos lacks, Nat.add_assoc, Nat.add_comm 1]

/-- The account of a request with a payload and of what comes after it. -/
theorem tool {r : Request} (payload : r.payload.isSome = true)
    (once : (walker.step s (stepAt root (.request r, folders))).perform w = (.ok s₁, w₁))
    (rest : walker.Account root nodes placed s₁ w₁ s' w') :
    ∃ p, walker.Account root ((.request r, folders) :: nodes) (p :: placed) s w s' w' := by
  have carries : ¬ Item.lacksPayload (.request r) = true := by
    simp [Item.lacksPayload, ← Option.not_isSome, payload]
  have visited : visit? (.request r, folders) = some (r, folders) := by simp [visit?, payload]
  simp only [stepAt, payload] at once
  obtain ⟨naming, a, artifact, resolved, compiled, rfl, put, rfl⟩ := step_tool_eq_ok payload once
  rw [root.descend_child] at put
  let p : Placement := {
    request := r, folders, naming
    artifact := { a with name := settle walker.collision s.identifiers a.name } }
  have places := rest.places
  have counted := rest.folders
  rw [Summary.identifiers_add] at places
  rw [Summary.foldersCreated_add] at counted
  refine ⟨p, ?_, .put put rest.lays, ?_, counted, ?_, rest.made_request⟩
  · rw [List.filterMap_cons_some visited]
    exact .cons resolved compiled places
  · rw [rest.written, Summary.written_add, root.descend_child]
    rfl
  · rw [rest.skipped, Summary.requestsSkipped_add, List.countP_cons, if_neg carries]
    rfl

/-- The tools are those of the requests with a payload, in the state of the augmentor that the walk
began with. -/
theorem places_visits {items : List Item} {service : σ}
    (h : walker.Account root (preorderAll [] items) placed {} w s' w')
    (same : w.service = service) : walker.Places [] service (visits items) placed w'.service :=
  same ▸ h.places

/-- The files are those that were put, one after the other. -/
theorem written_eq (h : walker.Account root nodes placed {} w s' w') :
    s'.written = Summary.putAll [] (placed.map (·.file root)) := h.written

/-- The paths of the files stand in order of first writing. -/
theorem paths_eq (h : walker.Account root nodes placed {} w s' w') :
    s'.paths = (placed.map fun p ↦ (p.file root).path).eraseDups := by
  rw [← s'.map_path_written, h.written_eq, Summary.paths_putAll, List.map_map]
  rfl

end Account

/-- Steps that all succeeded give an account of the nodes that they were planned for. -/
theorem account_of_steps {nodes : List (Item × List String)}
    (run : (walker.steps s (nodes.map (stepAt root))).perform w = (.ok s', w')) :
    ∃ placed, walker.Account root nodes placed s w s' w' := by
  induction nodes generalizing s w with
  | nil =>
    obtain ⟨rfl, rfl⟩ := Job.pure_eq_ok run
    exact ⟨[], .nil⟩
  | cons e nodes ih =>
    obtain ⟨s₁, w₁, once, after⟩ := Job.bind_eq_ok run
    obtain ⟨placed, rest⟩ := ih after
    obtain ⟨item, folders⟩ := e
    cases item with
    | folder name children => exact ⟨placed, .folder once rest⟩
    | request r =>
      cases payload : r.payload with
      | none => exact ⟨placed, .skip payload once rest⟩
      | some p =>
        obtain ⟨q, account⟩ := Account.tool (by rw [payload]; rfl) once rest
        exact ⟨q :: placed, account⟩

/-- A walk of a collection makes the directory that it starts from, and then comes to all nodes. -/
theorem account_of_walkCollection {c : Collection}
    (run : (walker.walkCollection c root).perform w = (.ok s, w')) :
    ∃ placed w₁, w.files.Grows w₁.files ∧ w₁.files.Leads root ∧
      w₁.files.get? (w.files.locate root) = some .directory ∧ w₁.service = w.service ∧
      walker.Account root (preorderAll [] c.items) placed {} w₁ s w' := by
  obtain ⟨_, w₁, made, steps⟩ := Job.bind_eq_ok run
  obtain ⟨⟨grows, leads, directory⟩, service⟩ := Job.makeDirectories_eq_ok made
  rw [walk, plan_within] at steps
  obtain ⟨placed, account⟩ := account_of_steps steps
  exact ⟨placed, w₁, grows, leads, directory, service, account⟩

theorem below_of_mem_files {placed : List Placement} :
    ∀ f ∈ placed.map (·.file root), ∃ names, f.path = root.descend names := by
  intro f hf
  obtain ⟨p, -, rfl⟩ := List.mem_map.1 hf
  exact ⟨p.names, rfl⟩

end Walker

/-! ### The files of a walk -/

/-- Each of some tools is sound and has its file below a directory, named after it, and there are no
other files there. -/
structure Walked (root : Path) (ws : List Written) (files : Files) : Prop where
  /-- The files below the directory are those of the tools. -/
  stored : Stored files root ws
  /-- No two tools have one file. -/
  distinct : (ws.map (·.path)).Nodup
  /-- The tools can be read back. -/
  sound : ∀ w ∈ ws, Sound w.artifact
  /-- The files are named after the tools. -/
  named : ∀ w ∈ ws, ∃ directory : Path, w.path = directory.child w.artifact.fileName

/-- Tools that are written below a directory with the files of others take the places of those
whose files have their paths. -/
theorem Walked.lays {ws : List Written} {files files' : Files} (h : Walked root ws files)
    {placed : List Placement} (sound : ∀ p ∈ placed, Sound p.artifact)
    (lays : Lays files (placed.map (·.file root)) files') :
    Walked root (Summary.putAll ws (placed.map (·.file root))) files' := by
  -- A tool in the end was put by the walk, or it was there before.
  have each {P : Written → Prop} (new : ∀ p ∈ placed, P (p.file root)) (old : ∀ f ∈ ws, P f) :
      ∀ f ∈ Summary.putAll ws (placed.map (·.file root)), P f := by
    intro f hf
    rw [Summary.mem_putAll h.distinct] at hf
    rcases hf with last | ⟨kept, -⟩
    · obtain ⟨_, hg, rfl⟩ := last.exists_begins
      obtain ⟨p, hp, rfl⟩ := List.mem_map.1 hg
      exact new p hp
    · exact old f kept
  exact ⟨h.stored.lays h.distinct Walker.below_of_mem_files lays,
    Summary.nodup_paths_putAll h.distinct _, each sound h.sound,
    each (fun p _ ↦ ⟨_, p.path_file root⟩) h.named⟩

theorem Walked.start {files files' : Files} (empty : files.EmptyBelow root)
    (more : files.Grows files') (leads : files'.Leads root)
    (directory : files'.get? (files.locate root) = some .directory) : Walked root [] files' :=
  ⟨.start empty more leads directory, List.nodup_nil, fun _ h ↦ absurd h List.not_mem_nil,
    fun _ h ↦ absurd h List.not_mem_nil⟩

/-- Making directories leaves the files alone. -/
theorem Walked.grows {ws : List Written} {files files' : Files} (h : Walked root ws files)
    (more : files.Grows files') : Walked root ws files' :=
  ⟨h.stored.grows more, h.distinct, h.sound, h.named⟩

/-- Where identifiers are numbered, they are distinct, and there is one for each request with a
payload. -/
theorem Walker.Account.numbered {c : Collection} {placed : List Placement}
    (h : walker.Account root (preorderAll [] c.items) placed {} w₁ s w')
    (numbers : walker.collision = .suffix) :
    s.written = placed.map (·.file root) ∧ (s.artifacts.map (·.name)).Nodup ∧
      s.toolsWritten = c.requestCount := by
  have all : Summary.putAll [] (placed.map (·.file root)) = placed.map (·.file root) :=
    Summary.putAll_of_nodup (h.places.nodup_paths numbers root)
  have kept : s.written = placed.map (·.file root) := h.written_eq.trans all
  refine ⟨kept, ?_, ?_⟩
  · rw [← s.map_artifact_written, kept, List.map_map, List.map_map]
    exact (h.places.nodup_identifiers numbers).1
  · rw [← s.length_written, kept, List.length_map, h.places.length_eq]
    exact length_visits c.items

end Toolsmith.Generation
