import Toolsmith.Compile
import Toolsmith.Generation.World

/-!
# Walking a collection

Every folder of a collection becomes a directory, and every request with a payload a file in the
directory of its folder. The nodes are visited in order of declaration, each folder before what
is in it, by way of a stack, so that the depth of a collection does not matter.

Two requests may end up with the same identifier. Either the later one takes the place of the
earlier where both belong into one directory, or it gets a number: the least from two on that
makes its identifier unused in the whole run.

## Main definitions

* `Generation.Step`, `Generation.plan`: what there is to do for a list of nodes.
* `Generation.Collision`: what happens to equal identifiers.
* `Generation.Summary`: what a walk did.
* `Generation.walk`, `Generation.walkCollection`: the walks.
-/

namespace Toolsmith.Generation

open Collection (Item Request)

/-! ### The plan -/

/-- One thing to do. -/
inductive Step where
  /-- Make the directory of a folder. -/
  | folder (path : Path)
  /-- Pass over a request without payload. -/
  | skip
  /-- Make the tool of a request, in a directory. -/
  | tool (request : Request) (directory : Path)

/-- The directory name of folders without a usable name. -/
def unnamedFolder : String := "unnamed_folder"

/-- The directory name of a folder. -/
def folderName (name : Option String) : String :=
  match name.map Naming.directory with
  | some n => if n.isEmpty then unnamedFolder else n
  | none => unnamedFolder

mutual
/-- The number of nodes at and below a node. -/
def nodeCount : Item → Nat
  | .folder _ children => nodeCountAll children + 1
  | .request _ => 1

/-- The number of nodes at and below several nodes. -/
def nodeCountAll : List Item → Nat
  | [] => 0
  | item :: items => nodeCount item + nodeCountAll items
end

/-- The number of nodes on and below a stack. -/
def stackCount : List (Item × Path) → Nat
  | [] => 0
  | (item, _) :: rest => nodeCount item + stackCount rest

theorem stackCount_append (xs ys : List (Item × Path)) :
    stackCount (xs ++ ys) = stackCount xs + stackCount ys := by
  induction xs with
  | nil => simp [stackCount]
  | cons x xs ih =>
    obtain ⟨item, path⟩ := x
    simp [stackCount, ih, Nat.add_assoc]

/-- Nodes that belong into one directory. -/
def within (directory : Path) (items : List Item) : List (Item × Path) :=
  items.map fun item ↦ (item, directory)

theorem stackCount_within (directory : Path) (items : List Item) :
    stackCount (within directory items) = nodeCountAll items := by
  induction items with
  | nil => rfl
  | cons item items ih =>
    have h : within directory (item :: items) = (item, directory) :: within directory items := rfl
    rw [h, stackCount, ih, nodeCountAll]

/-- What there is to do for the nodes on a stack, the top first. -/
def plan : List (Item × Path) → List Step
  | [] => []
  | (.folder name children, directory) :: rest =>
    let path := directory.child (folderName name)
    have : stackCount (within path children ++ rest) <
        stackCount ((.folder name children, directory) :: rest) := by
      simp [stackCount_append, stackCount_within, stackCount, nodeCount]
    .folder path :: plan (within path children ++ rest)
  | (.request r, directory) :: rest =>
    have : stackCount rest < stackCount ((.request r, directory) :: rest) := by
      simp [stackCount, nodeCount]
    (if r.payload.isSome then .tool r directory else .skip) :: plan rest
termination_by stack => stackCount stack

/-! ### Equal identifiers -/

/-- What happens to equal identifiers. -/
inductive Collision where
  /-- The later tool takes the place of the earlier one in the same directory. -/
  | overwrite
  /-- The later tool gets a number. -/
  | suffix
deriving DecidableEq, Inhabited

namespace Collision

/-- The policies by name. -/
def byName : Table Collision :=
  [("overwrite", .overwrite), ("suffix", .suffix)]

/-- The policy of a name. -/
def parse (s : String) : Option Collision :=
  byName.get? s

/-- The wording for a name that is no policy's. -/
def unknownMessage (s : String) : String :=
  "unknown collision policy '" ++ s ++ "' (expected overwrite or suffix)"

end Collision

/-- An identifier with a number. -/
def numbered (identifier : String) (n : Nat) : String :=
  identifier ++ toString n

/-- The least number from a given one on that makes an identifier unused. The first argument
bounds the search; the number of used identifiers is enough. -/
def leastUnused (used : List String) (identifier : String) : Nat → Nat → Nat
  | 0, n => n
  | fuel + 1, n =>
    if used.contains (numbered identifier n) then leastUnused used identifier fuel (n + 1) else n

/-- The identifier that a tool finally gets. -/
def settle (collision : Collision) (used : List String) (identifier : String) : String :=
  match collision with
  | .overwrite => identifier
  | .suffix =>
    if used.contains identifier then
      numbered identifier (leastUnused used identifier used.length 2)
    else identifier

/-! ### The walk -/

/-- A file written by a walk, and the tool in it. -/
structure Written where
  /-- The path of the file. -/
  path : Path
  /-- The tool. -/
  artifact : Artifact

/-- What a walk did. -/
structure Summary where
  /-- The number of files. One that was written again counts once. -/
  toolsWritten : Nat := 0
  /-- The number of folders. -/
  foldersCreated : Nat := 0
  /-- The number of requests passed over. -/
  requestsSkipped : Nat := 0
  /-- The paths of the files, in order of first writing. -/
  paths : List Path := []
  /-- The tools that the files hold in the end, in the same order. -/
  artifacts : List Artifact := []
  /-- The identifiers in use. -/
  identifiers : List String := []
  /-- Where the path of each file stands among the paths. -/
  index : List (Path × Nat) := []
  /-- Each file is counted. -/
  counted : toolsWritten = paths.length := by simp
  /-- Each file holds a tool. -/
  paired : artifacts.length = paths.length := by simp
  /-- Each path is found where it stands, and no other one is found. -/
  indexed : ∀ p, index.lookup p = paths.idxOf? p := by simp

namespace Summary

/-- The files, each with its tool. -/
def written (s : Summary) : List Written :=
  (s.paths.zip s.artifacts).map fun e ↦ ⟨e.1, e.2⟩

theorem lookup_index_append (s : Summary) (p q : Path) :
    (s.index ++ [(p, s.paths.length)]).lookup q = (s.paths ++ [p]).idxOf? q := by
  rw [List.lookup_append, s.indexed, List.idxOf?, List.findIdx?_append]
  by_cases h : p = q
  · simp [h]
  · simp [h, List.lookup_cons, beq_false_of_ne (Ne.symm h)]

/-- The summary with a new file. -/
def append (s : Summary) (file : Written) : Summary :=
  { s with
    toolsWritten := s.toolsWritten + 1
    paths := s.paths ++ [file.path]
    artifacts := s.artifacts ++ [file.artifact]
    index := s.index ++ [(file.path, s.paths.length)]
    counted := by rw [s.counted, List.length_append, List.length_singleton]
    paired := by
      rw [List.length_append, List.length_append, s.paired, List.length_singleton,
        List.length_singleton]
    indexed := s.lookup_index_append file.path }

/-- The summary with another tool in the file that stands at a place. -/
def replace (s : Summary) (i : Nat) (artifact : Artifact) : Summary :=
  { s with
    artifacts := s.artifacts.set i artifact
    paired := by rw [List.length_set, s.paired] }

/-- The summary with a file that was written. -/
def add (s : Summary) (file : Written) : Summary :=
  let s := { s with identifiers := file.artifact.name :: s.identifiers }
  match s.index.lookup file.path with
  | some i => s.replace i file.artifact
  | none => s.append file

end Summary

/-- How a collection is walked. -/
structure Walker (σ : Type) where
  /-- How names are resolved. -/
  resolver : Naming.Resolver σ := {}
  /-- What happens to equal identifiers. -/
  collision : Collision := .overwrite

namespace Walker

variable {σ : Type}

/-- Does one thing. -/
def step (walker : Walker σ) (s : Summary) : Step → Job σ Summary
  | .folder path => do
    Job.makeDirectories path
    return { s with foldersCreated := s.foldersCreated + 1 }
  | .skip => return { s with requestsSkipped := s.requestsSkipped + 1 }
  | .tool r directory => do
    let naming ← Job.resolve walker.resolver r
    match Compile.artifact? r naming with
    | none => return { s with requestsSkipped := s.requestsSkipped + 1 }
    | some compiled =>
      let artifact :=
        { compiled with name := settle walker.collision s.identifiers compiled.name }
      let path := directory.child artifact.fileName
      Job.writeFile path artifact.render
      return s.add { path, artifact }

/-- Does several things in order. -/
def steps (walker : Walker σ) : Summary → List Step → Job σ Summary
  | s, [] => return s
  | s, step :: rest => do
    let s ← walker.step s step
    walker.steps s rest

/-- Walks nodes that belong into a directory. -/
def walk (walker : Walker σ) (items : List Item) (directory : Path) : Job σ Summary :=
  walker.steps {} (plan (within directory items))

/-- Walks a whole collection into a directory, which is made first. -/
def walkCollection (walker : Walker σ) (c : Collection) (directory : Path) : Job σ Summary := do
  Job.makeDirectories directory
  walker.walk c.items directory

end Walker

end Toolsmith.Generation
