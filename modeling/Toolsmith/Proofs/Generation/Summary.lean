import Toolsmith.Proofs.Generation.Walk

/-!
# What a walk did and what it reports

A walk that succeeded came to the nodes of its collection in the order of the recursion, made one
tool for each request with a payload, and reports what it left on the disk. All of it is read off
the account of the walk: the order from the recursion, the identifiers from the placements, and the
files from the order in which they were written.

## Main definitions

* `Walker.InPreorder`: what a walk did in the order of the recursion.

## Main statements

* `Walker.walkCollection_preorder`: a walk by way of a stack is the recursive one.
* `Walker.walkCollection_suffix`: numbered identifiers lose no tool.
* `Walker.walkCollection_mirrored`: the summary tells what is on the disk.
-/

namespace Toolsmith.Generation.Walker

open Collection (Item)

variable {σ : Type}

/-! ### The order of the nodes -/

section Order

variable {walker : Walker σ} {c : Collection} {root : Path} {s : Summary} {w w' : World σ}

/-- A walk of a collection makes the directory that it starts from, and then does what there is to
do for each node in the order of the recursion. -/
theorem walkCollection_eq_steps (walker : Walker σ) (c : Collection) (root : Path) :
    walker.walkCollection c root = (do
      Job.makeDirectories root
      walker.steps {} ((preorderAll [] c.items).map (stepAt root))) := by
  simp only [walkCollection, walk, plan_within]

/-- When a walk comes to a node, it has made the directory that the node belongs into. -/
theorem directory_of_walkCollection {before after : List (Item × List String)}
    {e : Item × List String} (split : preorderAll [] c.items = before ++ e :: after)
    (run : (walker.walkCollection c root).perform w = (.ok s, w')) :
    ∃ s₁ w₁, (do Job.makeDirectories root
                 walker.steps {} (before.map (stepAt root))).perform w = (.ok s₁, w₁) ∧
      w₁.files.get? (w₁.files.locate (root.descend e.2)) = some .directory := by
  rw [walkCollection_eq_steps, split, List.map_append] at run
  simp only [steps_append, ← bind_assoc] at run
  obtain ⟨s₁, w₁, first, -⟩ := Job.bind_eq_ok run
  refine ⟨s₁, w₁, first, ?_⟩
  obtain ⟨_, w₀, made, once⟩ := Job.bind_eq_ok first
  obtain ⟨⟨grows, -, directory⟩, -⟩ := Job.makeDirectories_eq_ok made
  obtain ⟨placed, account⟩ := account_of_steps once
  -- The node is in no folder, or in one that came before it.
  rcases opened_of_preorderAll [] c.items split with outside | ⟨f, hf, inside⟩
  · rw [outside, root.descend_nil, account.lays.locate_eq, grows.locate_eq]
    exact account.lays.directory directory
  · exact account.made f hf _ inside

end Order

/-- What a walk did that made some tools, from a world to a summary and another world: it came to
the nodes in the order of the recursion. -/
structure InPreorder (walker : Walker σ) (c : Collection) (root : Path) (w : World σ) (s : Summary)
    (w' : World σ) (placed : List Placement) : Prop where
  /-- The requests with a payload led to the tools. -/
  places : walker.Places [] w.service (visits c.items) placed w'.service
  /-- The tools are those of the requests with a payload, in the order of the recursion, each with
  its folders. -/
  visited : placed.map (fun p ↦ (p.request, p.folders)) = visits c.items
  /-- The file of a tool is in the directory of its folders. -/
  path : ∀ p ∈ placed, (p.file root).path = (root.descend p.folders).child p.artifact.fileName
  /-- The summary tells of the files. -/
  written : s.written = Summary.putAll [] (placed.map (·.file root))
  /-- There is a tool for each request with a payload. -/
  count : placed.length = c.requestCount
  /-- A node is in no folder, or the walk came to the folder before. -/
  opened : ∀ before e after, preorderAll [] c.items = before ++ e :: after →
    e.2 = [] ∨ ∃ f ∈ before, directory? f = some e.2
  /-- The directory of the folder was made before the walk came to the node. -/
  ready : ∀ before e after, preorderAll [] c.items = before ++ e :: after →
    ∃ s₁ w₁, (do Job.makeDirectories root
                 walker.steps {} (before.map (stepAt root))).perform w = (.ok s₁, w₁) ∧
      w₁.files.get? (w₁.files.locate (root.descend e.2)) = some .directory
  /-- The directory of each folder is there in the end. -/
  made : ∀ e ∈ preorderAll [] c.items, ∀ names, directory? e = some names →
    w'.files.get? (w'.files.locate (root.descend names)) = some .directory
  /-- Folders are counted right. -/
  folders : s.foldersCreated = Item.countAll Item.isFolder c.items
  /-- So are requests without payload. -/
  skipped : s.requestsSkipped = Item.countAll Item.lacksPayload c.items

/-- The walk of a collection by way of a stack is the recursive walk, whether it succeeds or fails,
and does what there is to do for each node in the order of the recursion. If it succeeds, the tools
that it made are those of the requests with a payload, in that order, each in the directory of its
folders; the directory of a folder was made before the walk came to what is in it, and is there in
the end, also if the folder is empty; and folders, requests without payload and tools are counted
right. -/
theorem walkCollection_preorder (walker : Walker σ) (c : Collection) (root : Path) :
    walker.walkCollection c root = (do
      Job.makeDirectories root
      walker.visitAll root {} c.items) ∧
    walker.walkCollection c root = (do
      Job.makeDirectories root
      walker.steps {} ((preorderAll [] c.items).map (stepAt root))) ∧
    ∀ (s : Summary) (w w' : World σ), (walker.walkCollection c root).perform w = (.ok s, w') →
      ∃ placed, walker.InPreorder c root w s w' placed := by
  refine ⟨by simp only [walkCollection, walk_eq_visitAll], walkCollection_eq_steps walker c root,
    fun s w w' run ↦ ?_⟩
  obtain ⟨placed, w₁, -, -, -, service, account⟩ := account_of_walkCollection run
  have places := account.places_visits service
  refine ⟨placed, {
    places := places
    visited := places.map_visit
    path := fun p _ ↦ p.path_file root
    written := account.written_eq
    count := ?_
    opened := fun before e after split ↦ opened_of_preorderAll [] c.items split
    ready := fun before e after split ↦ directory_of_walkCollection split run
    made := account.made
    folders := ?_
    skipped := ?_ }⟩
  · rw [places.length_eq]
    exact length_visits c.items
  · rw [account.folders, countP_preorderAll, Nat.zero_add]
  · rw [account.skipped, countP_preorderAll, Nat.zero_add]

/-- A folder with a request, an empty folder and a note in it, and a request of the same name
behind it. -/
def errands : Collection where
  items :=
    [.folder (some "town")
        [.request { name := some "bank", payload := some {} }, .folder none [],
          .request { name := some "note" }],
      .request { name := some "bank", payload := some {} }]

/-- The errands are made in order of declaration, the folder first. -/
theorem walkCollection_preorder_errands :
    ∃ (s : Summary) (w' : World Unit) (placed : List Placement),
      (Walker.walkCollection {} errands ⟨"out", []⟩).perform ⟨{}, ()⟩ = (.ok s, w') ∧
      placed.map (·.folders) = [["town"], []] ∧ placed.length = 2 ∧
      w'.files.get? (w'.files.locate ⟨"out", ["town", "unnamed_folder"]⟩) = some .directory ∧
      s.foldersCreated = 2 ∧ s.requestsSkipped = 1 := by
  have succeeds : ((Walker.walkCollection (σ := Unit) {} errands ⟨"out", []⟩).perform
      ⟨{}, ()⟩).1.toOption.map (fun _ ↦ ()) = some () := by decide +kernel
  obtain ⟨s, w', run, -⟩ := Job.exists_of_toOption succeeds
  obtain ⟨-, -, told⟩ := walkCollection_preorder {} errands ⟨"out", []⟩
  obtain ⟨placed, walk⟩ := told s _ w' run
  have inside : placed.map (·.folders) = (visits errands.items).map (·.2) := by
    rw [← walk.visited, List.map_map]
    rfl
  have town : folderName (some "town") = "town" := by decide +kernel
  have empty : (Item.folder none [], ["town"]) ∈ preorderAll [] errands.items := by
    simp [errands, preorderAll, preorder, town]
  refine ⟨s, w', placed, run, ?_, walk.count, walk.made _ empty _ rfl, walk.folders, walk.skipped⟩
  rw [inside]
  decide +kernel

/-! ### Numbered identifiers -/

/-- A walk that numbers equal identifiers loses and merges nothing: the tools of all requests with a
payload get identifiers and paths of their own, and as many are written as there are such requests.
An identifier that no tool before has stays as it is, and any other is followed by the least number
from two on that makes it unused, which there always is. -/
theorem walkCollection_suffix {walker : Walker σ} {c : Collection} {root : Path} {s : Summary}
    {w w' : World σ} (numbers : walker.collision = .suffix)
    (run : (walker.walkCollection c root).perform w = (.ok s, w')) :
    (∃ placed : List Placement,
      walker.Places [] w.service (visits c.items) placed w'.service ∧
      placed.map (fun p ↦ (p.request, p.folders)) = visits c.items ∧
      s.written = placed.map (·.file root) ∧
      (placed.map (·.identifier)).Nodup ∧
      ∀ before p after, placed = before ++ p :: after →
        (p.naming.identifier ∉ before.map (·.identifier) → p.identifier = p.naming.identifier) ∧
        (p.naming.identifier ∈ before.map (·.identifier) →
          ∃ n, 2 ≤ n ∧ p.identifier = numbered p.naming.identifier n ∧
            numbered p.naming.identifier n ∉ before.map (·.identifier) ∧
            ∀ m, 2 ≤ m → m < n →
              numbered p.naming.identifier m ∈ before.map (·.identifier))) ∧
    (s.written.map (·.path)).Nodup ∧
    s.toolsWritten = c.requestCount ∧ s.written.length = c.requestCount ∧
    s.artifacts.length = c.requestCount ∧
    ∀ (used : List String) (identifier : String),
      ∃ n, 2 ≤ n ∧ n ≤ used.length + 2 ∧ numbered identifier n ∉ used := by
  obtain ⟨placed, w₁, -, -, -, service, account⟩ := account_of_walkCollection run
  obtain ⟨written, -, count⟩ := account.numbered numbers
  have places := account.places_visits service
  refine ⟨⟨placed, places, places.map_visit, written, (places.nodup_identifiers numbers).1,
    fun before p after split ↦ ?_⟩, ?_, count, s.length_written.trans count,
    s.paired.trans (s.counted.symm.trans count), fun used identifier ↦ ?_⟩
  · have settled := places.settled split
    rw [numbers] at settled
    -- The identifiers in use are those of the tools before.
    have used (identifier : String) : identifier ∈ (before.map (·.identifier)).reverse ++ [] ↔
        identifier ∈ before.map (·.identifier) := by
      rw [List.append_nil, List.mem_reverse]
    refine ⟨fun free ↦ ?_, fun taken ↦ ?_⟩
    · rw [settled, settle_suffix_of_notMem _ (mt (used _).1 free)]
    · obtain ⟨n, le, -, free, passed⟩ := exists_numbered_notMem
        ((before.map (·.identifier)).reverse ++ []) p.naming.identifier
      refine ⟨n, le, ?_, mt (used _).2 free, fun m le lt ↦ (used _).1 (passed m le lt)⟩
      rw [settled, settle_suffix_of_mem _ ((used _).2 taken) le free passed]
  · rw [written]
    exact places.nodup_paths numbers root
  · obtain ⟨n, le, bounded, free, -⟩ := exists_numbered_notMem used identifier
    exact ⟨n, le, bounded, free⟩

/-- Three tools of one name, in two directories. -/
def rings : Collection where
  items :=
    [.request { name := some "ring", payload := some {} },
      .folder (some "again") [.request { name := some "Ring", payload := some {} }],
      .request { name := some "ring 2", payload := some {} },
      .request { name := some "ring", payload := some {} }]

/-- The second ring has no number that an earlier one has, and each has a file. -/
theorem walkCollection_suffix_rings :
    ∃ (s : Summary) (w' : World Unit),
      (walkCollection { collision := .suffix } rings ⟨"out", []⟩).perform ⟨{}, ()⟩ =
        (.ok s, w') ∧
      s.artifacts.map (·.name) = ["ring", "ring2", "ring22", "ring3"] ∧ s.toolsWritten = 4 := by
  have names : ((walkCollection (σ := Unit) { collision := .suffix } rings ⟨"out", []⟩).perform
      ⟨{}, ()⟩).1.toOption.map (·.artifacts.map (·.name)) =
      some ["ring", "ring2", "ring22", "ring3"] := by decide +kernel
  obtain ⟨s, w', run, same⟩ := Job.exists_of_toOption names
  obtain ⟨-, -, count, -⟩ := walkCollection_suffix rfl run
  exact ⟨s, w', run, same, count⟩

/-! ### The summary and the disk -/

/-- After a walk the summary tells what is on the disk, whatever was there before: its paths are
distinct and in order of first writing, and the file at each holds the tool that the summary has for
it, under its file name. That tool is the one of the last request that was placed at the path. Where
nothing stood below the directory before, there are no other files. -/
theorem walkCollection_mirrored {walker : Walker σ} {c : Collection} {root : Path} {s : Summary}
    {w w' : World σ} (run : (walker.walkCollection c root).perform w = (.ok s, w')) :
    (∃ placed : List Placement,
      walker.Places [] w.service (visits c.items) placed w'.service ∧
      placed.map (fun p ↦ (p.request, p.folders)) = visits c.items ∧
      s.paths = (placed.map fun p ↦ (p.file root).path).eraseDups ∧
      ∀ (i : Nat) (path : Path) (a : Artifact), s.paths[i]? = some path →
        s.artifacts[i]? = some a →
        w'.files.read path = .ok a.render ∧
        path.fileName? = some a.fileName ∧
        ∃ before p after, placed = before ++ p :: after ∧ p.file root = ⟨path, a⟩ ∧
          Compile.artifact? p.request p.naming = some { a with name := p.naming.identifier } ∧
          ∀ q ∈ after, (q.file root).path ≠ path) ∧
    s.paths.Nodup ∧
    s.artifacts.length = s.paths.length ∧ s.toolsWritten = s.paths.length ∧
    (w.files.EmptyBelow root → ∀ names content x,
      w'.files.get? (w'.files.locate (root.descend names)) = some (.file content x) →
        root.descend names ∈ s.paths) := by
  obtain ⟨placed, w₁, grows, leads, directory, service, account⟩ := account_of_walkCollection run
  have places := account.places_visits service
  have written := account.written_eq
  have none : (([] : List Written).map (·.path)).Nodup := List.nodup_nil
  refine ⟨⟨placed, places, places.map_visit, account.paths_eq,
    fun i path a at_ holds ↦ ?_⟩, ?_, s.paired, s.counted, fun empty names content x there ↦ ?_⟩
  · have mem := List.mem_of_getElem? (s.getElem?_written at_ holds)
    rw [written, Summary.mem_putAll none] at mem
    have last := mem.resolve_right fun old ↦ List.not_mem_nil old.1
    obtain ⟨held, x, there⟩ := account.lays.held below_of_mem_files last
    -- The file comes last among those of its path, and so does its placement.
    obtain ⟨before, f, after, split, same, later⟩ := last
    obtain ⟨before, rest, rfl, -, split⟩ := List.map_eq_append_iff.1 split
    obtain ⟨p, after, rfl, rfl, rfl⟩ := List.map_eq_cons_iff.1 split
    have compiled := places.compiled p (List.mem_append_right _ List.mem_cons_self)
    have file : p.file root = ⟨path, a⟩ := same
    obtain ⟨rfl, rfl⟩ := Written.mk.inj file
    refine ⟨Files.read_of_get? held there, ?_, before, p, after, rfl, rfl, compiled,
      fun q hq ↦ later _ (List.mem_map_of_mem hq)⟩
    have named : (p.file root).path.fileName? = some p.artifact.fileName := by
      rw [p.path_file, Path.fileName?, Path.getLast?_below_child]
      rfl
    exact named
  · rw [← s.map_path_written, written]
    exact Summary.nodup_paths_putAll none _
  · have start : Walked root [] w₁.files := .start empty grows leads directory
    have walked := start.lays places.sound account.lays
    rw [Files.locate_descend] at there
    obtain ⟨f, hf, path⟩ := walked.stored.only names content x there
    rw [← s.map_path_written, written, ← path]
    exact List.mem_map_of_mem hf

/-- The second of two tools of one name takes the place of the first in its directory, and another
directory has one of its own. -/
theorem walkCollection_mirrored_rings :
    ∃ (s : Summary) (w' : World Unit),
      (Walker.walkCollection {} rings ⟨"out", []⟩).perform ⟨{}, ()⟩ = (.ok s, w') ∧
      s.paths =
        [⟨"out", ["ring.json"]⟩, ⟨"out", ["again", "ring.json"]⟩, ⟨"out", ["ring2.json"]⟩] ∧
      (∃ a, s.artifacts[0]? = some a ∧
        w'.files.read ⟨"out", ["ring.json"]⟩ = .ok a.render) ∧
      s.toolsWritten = 3 ∧
      ∀ content x, w'.files.get? (w'.files.locate ⟨"out", ["again", "ring2.json"]⟩) ≠
        some (.file content x) := by
  have paths : ((Walker.walkCollection (σ := Unit) {} rings ⟨"out", []⟩).perform
      ⟨{}, ()⟩).1.toOption.map (·.paths) =
      some [⟨"out", ["ring.json"]⟩, ⟨"out", ["again", "ring.json"]⟩,
        ⟨"out", ["ring2.json"]⟩] := by decide +kernel
  obtain ⟨s, w', run, same⟩ := Job.exists_of_toOption paths
  obtain ⟨⟨placed, -, -, -, each⟩, -, paired, count, others⟩ := walkCollection_mirrored run
  have length := congrArg List.length same
  obtain ⟨a, rest, artifacts⟩ := List.exists_cons_of_length_eq_add_one (paired.trans length)
  have first : s.artifacts[0]? = some a := by rw [artifacts]; rfl
  obtain ⟨held, -⟩ := each 0 _ a (by rw [same]; rfl) first
  refine ⟨s, w', run, same, ⟨a, first, held⟩, count.trans length, fun content x there ↦ ?_⟩
  have among := others (fun _ _ ↦ rfl) ["again", "ring2.json"] content x there
  rw [same] at among
  revert among
  decide

end Toolsmith.Generation.Walker
