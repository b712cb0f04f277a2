import Toolsmith.Collection.Document
import Toolsmith.Files
import Toolsmith.Naming

/-!
# The world of a generation run

A run reads and writes files and may consult an augmentor, which has a state. A run that fails
leaves behind what it did before, and that part of what failed which was done by then.

## Main definitions

* `Generation.Error`: why a run fails.
* `Generation.World`: the files and the augmentor's state.
* `Generation.Job`: an action in the world that may fail.
-/

namespace Toolsmith.Generation

/-- Why a run fails. -/
inductive Error where
  /-- A file cannot be read. -/
  | read (path : Path) (reason : Files.OsError)
  /-- The collection makes no sense. -/
  | parse (reason : CollectionError)
  /-- The augmentor failed for a request. -/
  | augment (request : String) (reason : Naming.AugmentError)
  /-- A file or directory cannot be written. -/
  | write (path : Path) (reason : Files.OsError)
  /-- A template or the manifest makes no sense. -/
  | template (name : String) (reason : String)
  /-- The archive cannot be made. -/
  | package (path : Path) (reason : String)
deriving DecidableEq

namespace Error

/-- The wording of a failure. -/
def message : Error → String
  | .read path reason => "Failed to read '" ++ path.text ++ "': " ++ reason.message
  | .parse reason => reason.message
  | .augment request reason =>
    "Naming augmentation failed for '" ++ request ++ "': " ++ reason.message
  | .write path reason => "Failed to write '" ++ path.text ++ "': " ++ reason.message
  | .template name reason => "Failed to render template '" ++ name ++ "': " ++ reason
  | .package path reason => "Failed to package '" ++ path.text ++ "': " ++ reason

/-- The wordings of what led to a failure. -/
def causes : Error → List String
  | .read _ reason => [reason.message]
  | .parse (.json fault) => [fault.message]
  | .parse .rootNotObject => []
  | .augment _ reason => [reason.message]
  | .write _ reason => [reason.message]
  | .template _ _ => []
  | .package _ _ => []

end Error

/-- What a run acts on. -/
structure World (σ : Type) where
  /-- The files. -/
  files : Files
  /-- The state of the augmentor. -/
  service : σ

/-- An action in the world that may fail. -/
abbrev Job (σ α : Type) := ExceptT Error (StateM (World σ)) α

namespace Job

variable {σ α : Type}

/-- What an action does to a world. -/
def perform (job : Job σ α) (w : World σ) : Except Error α × World σ :=
  (job.run w).run

/-- Reads a text file, unless something happens to that. -/
def readFile (p : Path) : Job σ String := do
  let files := (← get).files
  modify fun w ↦ { w with files := files.next }
  match files.fault?.elim (files.read p) fun fault ↦ .error fault.reason with
  | .ok text => return text
  | .error e => throw (.read p e)

/-- Does an operation on files. Where it fails, this is told as a failure to write at a path. -/
def operateFor (told : Path) (op : Files.Operation) : Job σ Unit := do
  let (outcome, files) := op.apply (← get).files
  modify fun w ↦ { w with files }
  match outcome with
  | .ok () => return ()
  | .error e => throw (.write told e)

/-- Does an operation on files, whose failure is one to write at its path. -/
def operate (op : Files.Operation) : Job σ Unit :=
  operateFor op.path op

/-- Writes a text file. -/
def writeFile (p : Path) (text : String) : Job σ Unit :=
  operate (.write p (.text text))

/-- Makes a file executable. -/
def makeExecutable (p : Path) : Job σ Unit :=
  operate (.makeExecutable p)

/-- Makes a directory and those that lead to it. -/
def makeDirectories (p : Path) : Job σ Unit :=
  operate (.makeDirectories p)

/-- The names of a request. -/
def resolve (resolver : Naming.Resolver σ) (r : Collection.Request) : Job σ Naming := do
  let (outcome, service) := resolver.resolve r (← get).service
  modify fun w ↦ { w with service }
  match outcome with
  | .ok naming => return naming
  | .error e => throw (.augment (r.name.getD "") e)

end Job

end Toolsmith.Generation
