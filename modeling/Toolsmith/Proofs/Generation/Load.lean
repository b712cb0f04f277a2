import Mathlib.Data.List.Sort
import Toolsmith.Proofs.Files.Order
import Toolsmith.Proofs.Generation.Extras
import Toolsmith.Proofs.Generation.Walk
import Toolsmith.Proofs.Server.Toolset

/-!
# The tools of a walk loaded

The tools are found by walking the same files that the walk of the collection left, so they are
those of the walk. They are found in the order of the names that lead to their files, and so a
server that has several tools of one name tells of the one whose file comes last in that order.

## Main definitions

* `Generation.InOrder`: the tools in some files, in order.
* `Generation.Exposes`: what a server tells of the tools in some files.

## Main statements

* `Generation.Walked.load_sorted`: the tools that are loaded, in order.
* `Generation.InOrder.mem_listing`: what is listed of them.
-/

namespace Toolsmith.Generation

theorem Summary.mem_names_artifacts {s : Summary} {name : String} :
    name ∈ s.artifacts.map (·.name) ↔ ∃ w ∈ s.written, w.artifact.name = name := by
  rw [← s.map_artifact_written, List.map_map, List.mem_map]
  rfl

/-- The tools in some files below a directory, each with the names that lead there, in the order of
the names. -/
structure InOrder (root : Path) (ws : List Written) (loaded : List (List String × Artifact)) :
    Prop where
  /-- They are in order. -/
  sorted : loaded.Pairwise (·.1 < ·.1)
  /-- They are the tools in the files. -/
  mem : ∀ e, e ∈ loaded ↔ ∃ w ∈ ws, w.path = root.descend e.1 ∧ w.artifact = e.2
  /-- The files are below the directory. -/
  below : ∀ w ∈ ws, ∃ names, w.path = root.descend names

/-! ### Loading -/

section Load

variable {files : Files} {root : Path} {ws : List Written}

open Server.Toolset (isArtifactPath loadFile)

/-- What is found below the directory, if it is no directory, is the file of a tool. -/
theorem Walked.loadFile_of_found (h : Walked root ws files) {below : List String}
    {content : Files.Content} {x : Bool}
    (there : files.get? (files.locate root ++ below) = some (.file content x)) {p : Path}
    (at_ : files.locate p = files.locate root) (passes : files.Passes p) :
    ∃ w ∈ ws, w.path = root.descend below ∧ isArtifactPath (p.descend below) = true ∧
      loadFile files (p.descend below) = .ok w.artifact := by
  obtain ⟨w, hw, path⟩ := h.stored.only below content x there
  obtain ⟨below', x', path', text⟩ := h.stored.file w hw
  rw [← root.descend_injective (path.symm.trans path')] at text
  obtain ⟨directory, named⟩ := h.named w hw
  refine ⟨w, hw, path, ?_, ?_⟩
  · -- the last name is that of the file, since the directory itself is no file
    have last : below.getLast? = some w.artifact.fileName := by
      have lasts := congrArg (fun p : Path ↦ p.below.getLast?) (path.symm.trans named)
      simp only [Path.getLast?_below_child, Path.descend, List.getLast?_append] at lasts
      cases below with
      | nil =>
        rw [List.append_nil, h.stored.directory] at there
        cases there
      | cons name rest => simpa [List.getLast?_cons] using lasts
    have fileName : (p.descend below).fileName? = some w.artifact.fileName := by
      simp [Path.fileName?, Path.descend, List.getLast?_append, last]
    rw [isArtifactPath, fileName]
    exact Server.Toolset.isArtifactName_fileName (h.sound w hw).ne_empty
  · have place : files.locate (p.descend below) = files.locate root ++ below := by
      rw [Files.locate_descend, at_]
    have reach := h.stored.reach below (by rw [there]; exact Option.some_ne_none _)
    rw [← at_] at reach
    rw [← place] at text
    rw [loadFile, Files.read_of_get? (Files.leads_descend_iff.2 ⟨passes, reach⟩) text]
    simp only [Except.mapError, bind, Except.bind,
      Artifact.parse_render_of_wellFormed (h.sound w hw).wellFormed (h.sound w hw).shallow]

/-- What is found below the directory, if it is no directory, is a file there. -/
theorem Walked.exists_file_of_found (h : Walked root ws files) {p : Path}
    (at_ : files.locate p = files.locate root) {depth : Nat} {q : Path} {n : Files.Node}
    (found : (q, n) ∈ files.walkFrom depth p .directory) (kind : n.isDirectory = false) :
    ∃ below, q = p.descend below ∧ ∃ content x,
      files.get? (files.locate root ++ below) = some (.file content x) := by
  obtain ⟨below, path, there⟩ := Files.get?_of_mem_walkFrom (at_ ▸ h.stored.directory) found
  obtain rfl : q = p.descend below := path
  rw [Files.locate_descend, at_] at there
  cases n with
  | directory => cases kind
  | file content x => exact ⟨below, rfl, content, x, there⟩

/-- What is found below the directory and loaded are the tools of the walk. -/
theorem Walked.loadFile_walkFrom_iff (h : Walked root ws files) {p : Path}
    (at_ : files.locate p = files.locate root) (passes : files.Passes p) {q : Path} {a : Artifact} :
    (∃ d ∈ files.walkFrom (files.depth + 1) p .directory, d.1 = q ∧ d.2.isDirectory = false) ∧
        loadFile files q = .ok a ↔
      ∃ below, q = p.descend below ∧ ∃ w ∈ ws, w.path = root.descend below ∧
        w.artifact = a := by
  have directory : files.get? (files.locate p) = some .directory := at_ ▸ h.stored.directory
  constructor
  · rintro ⟨⟨⟨_, n⟩, found, rfl, kind⟩, load⟩
    obtain ⟨below, rfl, content, x, there⟩ := h.exists_file_of_found at_ found kind
    obtain ⟨w, hw, path, -, load'⟩ := h.loadFile_of_found there at_ passes
    exact ⟨below, rfl, w, hw, path, Except.ok.inj (load'.symm.trans load)⟩
  · rintro ⟨below, rfl, w, hw, path, rfl⟩
    obtain ⟨below', x, path', there⟩ := h.stored.file w hw
    obtain rfl := root.descend_injective (path.symm.trans path')
    obtain ⟨v, hv, same, -, load⟩ := h.loadFile_of_found there at_ passes
    obtain rfl := List.inj_on_of_nodup_map h.distinct hv hw (same.trans path.symm)
    have reach := h.stored.reach below (by rw [there]; exact Option.some_ne_none _)
    have deep : below.length < files.depth + 1 := by
      have length := Files.length_le_depth there
      rw [List.length_append] at length
      omega
    rw [← at_] at there reach
    exact ⟨⟨_, Files.mem_walkFrom directory deep there reach, rfl, rfl⟩, load⟩

/-- The tools that are loaded from the directory, whatever path leads there, are those of the walk,
in the order of the names that lead to their files. -/
theorem Walked.load_sorted (h : Walked root ws files) {p : Path}
    (at_ : files.locate p = files.locate root) (passes : files.Passes p) :
    ∃ loaded : List (List String × Artifact),
      Server.Toolset.load files p = .ok (loaded.map (·.2)) ∧ InOrder root ws loaded := by
  have directory : files.get? (files.locate p) = some .directory := at_ ▸ h.stored.directory
  have start : files.Leads p := Files.leads_iff.2 ⟨passes, at_ ▸ h.stored.leads.reach⟩
  have tools : ∀ e ∈ files.walkFrom (files.depth + 1) p .directory, e.2.isDirectory = false →
      isArtifactPath e.1 = true ∧ ∃ a, loadFile files e.1 = .ok a := by
    rintro ⟨_, n⟩ found kind
    obtain ⟨below, rfl, content, x, there⟩ := h.exists_file_of_found at_ found kind
    obtain ⟨w, -, -, name, load⟩ := h.loadFile_of_found there at_ passes
    exact ⟨name, w.artifact, load⟩
  obtain ⟨loaded, all, order, mem⟩ := Server.Toolset.loadFiles_eq_ok tools
  have mem (e : Path × Artifact) := (mem e).trans (h.loadFile_walkFrom_iff at_ passes)
  -- the names that lead to a file from the path are what its path has below
  have names (below : List String) : (p.descend below).below.drop p.below.length = below :=
    List.drop_left
  refine ⟨loaded.map fun e ↦ (e.1.below.drop p.below.length, e.2), ?_, ?_, fun e ↦ ?_,
    fun w hw ↦ ?_⟩
  · rw [Server.Toolset.load, Files.walk_eq_ok start directory, List.map_map]
    exact all
  · have sorted : (loaded.map (·.1)).Pairwise fun q r : Path ↦ q.below < r.below :=
      .sublist order (List.pairwise_map.2 (Files.pairwise_walkFrom directory))
    refine List.pairwise_map.2 ((List.pairwise_map.1 sorted).imp_of_mem fun {d e} hd he lt ↦ ?_)
    obtain ⟨below, path, -⟩ := (mem d).1 hd
    obtain ⟨below', path', -⟩ := (mem e).1 he
    rw [path, path', p.below_descend_lt_iff] at lt
    simpa only [path, path', names] using lt
  · rw [List.mem_map]
    constructor
    · rintro ⟨⟨q, a⟩, hd, rfl⟩
      obtain ⟨below, rfl, w, hw, path, same⟩ := (mem _).1 hd
      exact ⟨w, hw, by rw [names]; exact path, same⟩
    · rintro ⟨w, hw, path, same⟩
      exact ⟨(p.descend e.1, e.2), (mem _).2 ⟨e.1, rfl, w, hw, path, same⟩, by rw [names]⟩
  · obtain ⟨below, -, path, -⟩ := h.stored.file w hw
    exact ⟨below, path⟩

end Load

/-! ### What is told of the tools -/

/-- Whether a server with the tools in some files tells of a definition: it is that of a tool, and
of the tools of its name it is the one whose file comes last, in the order of the names that lead
there. -/
def Exposes (ws : List Written) (d : Server.Definition) : Prop :=
  ∃ w ∈ ws, .ofArtifact w.artifact = d ∧
    ∀ v ∈ ws, v.artifact.name = d.name → ¬ w.path.below < v.path.below

namespace InOrder

variable {root : Path} {ws : List Written} {loaded : List (List String × Artifact)}

theorem mem_artifacts (h : InOrder root ws loaded) {a : Artifact} :
    a ∈ loaded.map (·.2) ↔ ∃ w ∈ ws, w.artifact = a := by
  rw [List.mem_map]
  constructor
  · rintro ⟨e, he, rfl⟩
    obtain ⟨w, hw, -, same⟩ := (h.mem e).1 he
    exact ⟨w, hw, same⟩
  · rintro ⟨w, hw, rfl⟩
    obtain ⟨names, path⟩ := h.below w hw
    exact ⟨(names, w.artifact), (h.mem _).2 ⟨w, hw, path, rfl⟩, rfl⟩

/-- The order leaves no choice. -/
theorem eq_of_mem_iff (h : InOrder root ws loaded) {other : Path} {vs : List Written}
    {loaded' : List (List String × Artifact)} (h' : InOrder other vs loaded')
    (same : ∀ names a, (∃ w ∈ ws, w.path = root.descend names ∧ w.artifact = a) ↔
      ∃ v ∈ vs, v.path = other.descend names ∧ v.artifact = a) : loaded = loaded' := by
  have irrefl : Std.Irrefl fun e d : List String × Artifact ↦ e.1 < d.1 := ⟨fun _ ↦ lt_irrefl _⟩
  have antisymm : Std.Antisymm fun e d : List String × Artifact ↦ e.1 < d.1 :=
    ⟨fun _ _ lt gt ↦ absurd gt (lt_asymm lt)⟩
  refine h.sorted.eq_of_mem_iff h'.sorted fun e ↦ ?_
  rw [h.mem, h'.mem]
  exact same e.1 e.2

/-- What a server lists of the tools. -/
theorem mem_listing (h : InOrder root ws loaded) (identity : Server.Identity)
    (environment : Table String) {d : Server.Definition} :
    d ∈ (Server.Toolset.register { identity } environment (loaded.map (·.2))).listing.tools ↔
      Exposes ws d := by
  rw [Server.mem_listing_register_iff, stands_map, stands_iff_of_pairwise lt_asymm h.sorted]
  constructor
  · rintro ⟨e, he, told, last⟩
    obtain ⟨w, hw, path, same⟩ := (h.mem e).1 he
    refine ⟨w, hw, same ▸ told, fun v hv name later ↦ ?_⟩
    obtain ⟨names, path'⟩ := h.below v hv
    rw [path, path', root.below_descend_lt_iff] at later
    exact last (names, v.artifact) ((h.mem _).2 ⟨v, hv, path', rfl⟩) name later
  · rintro ⟨w, hw, told, last⟩
    obtain ⟨names, path⟩ := h.below w hw
    refine ⟨(names, w.artifact), (h.mem _).2 ⟨w, hw, path, rfl⟩, told, fun e he name later ↦ ?_⟩
    obtain ⟨v, hv, path', same⟩ := (h.mem e).1 he
    refine last v hv (same ▸ name) ?_
    rwa [path, path', root.below_descend_lt_iff]

/-- The names that a server lists are those of the tools. -/
theorem mem_names_listing (h : InOrder root ws loaded) (identity : Server.Identity)
    (environment : Table String) {name : String} :
    name ∈ (Server.Toolset.register { identity } environment
        (loaded.map (·.2))).listing.tools.map (·.name) ↔
      ∃ w ∈ ws, w.artifact.name = name := by
  rw [Server.names_listing_register, Server.mem_names_register]
  simp only [h.mem_artifacts, exists_exists_and_eq_and]

end InOrder

/-- The tools that are loaded from the directory, whatever path leads there, are those in the
files. -/
theorem Walked.load_eq_ok {root : Path} {ws : List Written} {files : Files}
    (h : Walked root ws files) {p : Path} (at_ : files.locate p = files.locate root)
    (passes : files.Passes p) :
    ∃ artifacts, Server.Toolset.load files p = .ok artifacts ∧
      ∀ a, a ∈ artifacts ↔ a ∈ ws.map (·.artifact) := by
  obtain ⟨loaded, all, order⟩ := h.load_sorted at_ passes
  refine ⟨_, all, fun a ↦ ?_⟩
  rw [order.mem_artifacts, List.mem_map]

section Exposes

variable {ws vs : List Written} {d : Server.Definition}

theorem Exposes.congr (same : ∀ w, w ∈ ws ↔ w ∈ vs) : Exposes ws d ↔ Exposes vs d := by
  simp only [Exposes, same]

/-- What is told of is a tool of some files if it is one of those and more, or it is one of the
others. -/
theorem Exposes.of_append (h : Exposes (ws ++ vs) d) :
    Exposes ws d ∨ ∃ v ∈ vs, .ofArtifact v.artifact = d := by
  obtain ⟨w, hw, told, last⟩ := h
  rcases List.mem_append.1 hw with hw | hw
  · exact .inl ⟨w, hw, told, fun v hv ↦ last v (List.mem_append_left _ hv)⟩
  · exact .inr ⟨w, hw, told⟩

/-- Tools of other names do not matter. -/
theorem exposes_append_iff (other : ∀ v ∈ vs, v.artifact.name ≠ d.name) :
    Exposes (ws ++ vs) d ↔ Exposes ws d := by
  constructor
  · intro h
    refine h.of_append.resolve_right ?_
    rintro ⟨v, hv, rfl⟩
    exact other v hv rfl
  · rintro ⟨w, hw, told, last⟩
    refine ⟨w, List.mem_append_left _ hw, told, fun v hv name ↦ ?_⟩
    rcases List.mem_append.1 hv with hv | hv
    · exact last v hv name
    · exact absurd name (other v hv)

end Exposes

end Toolsmith.Generation
