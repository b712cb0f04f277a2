import Toolsmith.Generation.Archive
import Toolsmith.Generation.Manifest
import Toolsmith.Generation.Walk

/-!
# Generating servers

A server is generated from a collection: its tools are written into a directory, then the files
made from templates, and last the manifest. The server either stays a directory or becomes an
archive; an archive is packed from a directory that no one else sees.

## Main definitions

* `Generation.Generator`: how servers are generated.
* `Generation.Target`: where a server goes.
* `Generation.Generator.generate`: generates the server of a collection.
* `Generation.Generator.generateFile`: generates the server of a collection in a file.
-/

namespace Toolsmith.Generation

/-- Where a server goes. -/
inductive Target where
  /-- An archive. -/
  | archive (path : Path)
  /-- A directory, which is made if it is missing. -/
  | directory (path : Path)
deriving DecidableEq

/-- The path of a target. -/
def Target.path : Target → Path
  | .archive p => p
  | .directory p => p

/-- What a run made. -/
structure Report where
  /-- The name of the server. -/
  serverName : String
  /-- The identifiers of the tools, in order of generation. -/
  tools : List String
  /-- The number of requests passed over. -/
  skipped : Nat
  /-- Where the server is. -/
  output : Path
deriving DecidableEq

/-! ### The files besides the tools -/

/-- Writes the file of a template into a directory, and tells its path. -/
def writeTemplate {σ : Type} (directory : Path) (context : Context) (t : Template) :
    Job σ Path := do
  let path := directory.child t.file
  match context.render t.source with
  | .error reason => throw (.template t.file reason)
  | .ok text =>
    Job.writeFile path text
    if t.executable then Job.makeExecutable path
    return path

/-- Writes the files of several templates into a directory, and tells their paths. -/
def writeTemplates {σ : Type} (directory : Path) (context : Context) :
    List Template → Job σ (List Path)
  | [] => return []
  | t :: ts => do
    let path ← writeTemplate directory context t
    let paths ← writeTemplates directory context ts
    return path :: paths

/-- Writes the manifest of a server, and tells its path. -/
def writeManifest {σ : Type} (directory : Path) (m : Manifest) : Job σ Path := do
  let path := directory.child Manifest.fileName
  Job.writeFile path m.render
  return path

/-- Writes the files of a server besides its tools, and tells their paths. -/
def writeExtras {σ : Type} (directory : Path) (context : Context) (tools : List String) :
    Job σ (List Path) := do
  let paths ← writeTemplates directory context Template.all
  let manifest ← writeManifest directory (.generated context.serverName context.mode tools)
  return paths ++ [manifest]

/-! ### Servers -/

/-- How servers are generated. -/
structure Generator (σ : Type) extends Walker σ where
  /-- The mode of the servers. -/
  mode : Server.Mode := .stdio

namespace Generator

variable {σ : Type}

/-- Writes a server with a name into a directory, and tells what the walk did. -/
def writeServer (g : Generator σ) (c : Collection) (name : String) (root : Path) :
    Job σ Summary := do
  let summary ← g.walkCollection c (root.child toolsDirectory)
  let context : Context :=
    { serverName := name
      mode := g.mode
      environment := environmentNames summary.artifacts }
  let _ ← writeExtras root context (summary.artifacts.map (·.name))
  return summary

/-- The directory of temporary files. -/
def temporary : Path := ⟨"/tmp", []⟩

/-- A directory for a server that is going to be packed. -/
def staging : Path :=
  temporary.child "mcp-gen-staging"

/-- Does a job in an empty staging directory among files of its own, and tells those as well as they
are afterwards. The files of before are as they were, however the job ends. -/
def staged {α : Type} (job : Path → Job σ α) : Job σ (α × Files) := do
  let before := (← get).files
  modify fun w ↦ { w with files := { faults := before.faults } }
  let outcome : Except Error α ← ExceptT.lift (do
    Job.operateFor temporary (.makeDirectories staging)
    job staging : Job σ α).run
  let after := (← get).files
  modify fun w ↦ { w with files := { before with faults := after.faults } }
  match outcome with
  | .error e => throw e
  | .ok a => return (a, after)

/-- Writes a server with a name into an archive, and tells what the walk did. The archive is packed
from a staging directory once the server has been written there. -/
def writeArchive (g : Generator σ) (c : Collection) (name : String) (archive : Path) :
    Job σ Summary := do
  let (summary, stagedFiles) ← staged fun root ↦ g.writeServer c name root
  let _ ← Archive.writeFrom (fun _ ↦ stagedFiles) staging archive
  return summary

/-- Writes a server with a name to a target, and tells what the walk did. -/
def writeTo (g : Generator σ) (c : Collection) (name : String) : Target → Job σ Summary
  | .archive archive => g.writeArchive c name archive
  | .directory directory => do
    Job.makeDirectories directory
    g.writeServer c name directory

/-- Generates the server of a collection. -/
def generate (g : Generator σ) (c : Collection) (target : Target) : Job σ Report := do
  let name := serverName (c.name.getD "")
  let summary ← g.writeTo c name target
  return {
    serverName := name
    tools := summary.artifacts.map (·.name)
    skipped := summary.requestsSkipped
    output := target.path }

/-- Generates the server of a collection in a file. -/
def generateFile (g : Generator σ) (input : Path) (target : Target) : Job σ Report := do
  let text ← Job.readFile input
  match Collection.ofText text with
  | .error e => throw (.parse e)
  | .ok c => g.generate c target

end Generator

end Toolsmith.Generation
