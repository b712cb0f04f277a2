import Toolsmith.Generation.Template
import Toolsmith.Generation.World

/-!
# Archives

A directory is packed into an archive: one entry for each directory and file in it, in order of
name, each directory before what is in it. Nothing in an archive is executable but the script
that starts the server.

## Main definitions

* `Generation.Archive.ofDirectory`: the entries of a directory.
* `Generation.Archive.write`, `Generation.Archive.writeFrom`: packs a directory into an archive.
-/

namespace Toolsmith.Generation.Archive

open Files (Content Node OsError Packed)

/-- The text of a file. -/
def contentText : Content → String
  | .text t => t
  | .archive _ => ""

/-- The entry of a file or directory that some names lead to. -/
def packed (names : List String) : Node → Packed
  | .directory => { name := "/".intercalate names ++ "/", executable := true, text := "" }
  | .file content _ =>
    let name := "/".intercalate names
    { name, executable := name = Template.startScript, text := contentText content }

/-- The names that lead to a path from another one above it. -/
def namesFrom (source path : Path) : List String :=
  path.below.drop source.below.length

/-- The entries of a directory. -/
def ofDirectory (files : Files) (source : Path) : Except OsError (List Packed) := do
  let found ← files.walk source
  return found.tail.map fun e ↦ packed (namesFrom source e.1) e.2

/-- The number of entries that are files. -/
def fileCount (entries : List Packed) : Nat :=
  (entries.filter fun e ↦ !e.name.endsWith "/").length

/-- Makes an archive, writes the entries of a directory into it, and tells the number of files. The
directory is listed when the archive has been made, among files that are told from those of then. -/
def writeFrom {σ : Type} (among : Files → Files) (source archive : Path) : Job σ Nat := do
  Job.operate (.write archive (.archive []))
  match ofDirectory (among (← get).files) source with
  | .error e => throw (.package archive (Files.walkMessage source e))
  | .ok entries =>
    Job.operate (.write archive (.archive entries))
    return fileCount entries

/-- Packs a directory into an archive, and tells the number of files. The archive is made first, so
one that is in the directory is packed too. -/
def write {σ : Type} (source archive : Path) : Job σ Nat :=
  writeFrom id source archive

end Toolsmith.Generation.Archive
