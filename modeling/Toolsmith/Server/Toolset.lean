import Toolsmith.Files
import Toolsmith.Server.Basic

/-!
# Toolsets

The tools of a server are loaded from the files below a directory, in order of name. Every file
with the extension of artifacts has to hold one; others are passed over.

## Main definitions

* `Server.Toolset.load`: the artifacts below a directory.
* `Server.Toolset.register`: a server with artifacts added as tools.
-/

namespace Toolsmith.Server.Toolset

/-- Whether a file name has the extension of artifacts. -/
def isArtifactName (name : String) : Bool :=
  name.endsWith ("." ++ Artifact.extension) && name != "." ++ Artifact.extension

/-- Whether a path is that of an artifact. -/
def isArtifactPath (p : Path) : Bool :=
  p.fileName?.any isArtifactName

/-- The artifact in a file. -/
def loadFile (files : Files) (p : Path) : Except Failure Artifact := do
  let text ← (files.read p).mapError fun e ↦ .artifact p e.message
  (Artifact.parse text).mapError fun f ↦ .artifact p f.message

/-- The artifacts at the paths that are those of artifacts. -/
def loadFiles (files : Files) : List (Path × Files.Node) → Except Failure (List Artifact)
  | [] => .ok []
  | (p, node) :: rest =>
    if node.isDirectory || !isArtifactPath p then loadFiles files rest
    else do
      let a ← loadFile files p
      return a :: (← loadFiles files rest)

/-- The artifacts below a directory. -/
def load (files : Files) (directory : Path) : Except Failure (List Artifact) :=
  match files.walk directory with
  | .error e => .error (.artifact directory (Files.walkMessage directory e))
  | .ok found => loadFiles files found

/-- The server with artifacts added as tools. -/
def register (s : Server Http.Network) (environment : Table String) (artifacts : List Artifact) :
    Server Http.Network :=
  s.addAll (artifacts.map (Tool.ofArtifact environment))

end Toolsmith.Server.Toolset
