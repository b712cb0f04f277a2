import Toolsmith.Path
import Toolsmith.Text.Sorted

/-!
# Files

The files of a computer as a value: directories, and files with a text or an archive in them. An
operation fails for the reason that the system would give: because its path leads nowhere, or
because the disk is full, access is denied, and whatever else may happen to an operation. What may
happen is not known beforehand, so the files tell it as well, as a list of what the coming
operations meet. An operation that fails may have done part of its work: a file is made, or emptied,
before it is written, and it is written bit by bit.

## Main definitions

* `Files`: the files, the working directory, and what the coming operations meet.
* `Files.OsError`, `Files.Fault`: why an operation fails, and how far it got.
* `Files.read`, `Files.write`, `Files.makeDirectories`, `Files.makeExecutable`: what operations do
  that meet nothing.
* `Files.Operation.apply`: what an operation does that may meet something.
* `Files.walk`: everything at and below a path, in order of name.
-/

namespace Toolsmith

namespace Files

/-- Why an operation on files fails. -/
inductive OsError where
  | notFound
  | alreadyExists
  | notADirectory
  | isADirectory
  | nameTooLong
  /-- Whatever else the system has to say. -/
  | other (wording : String)
deriving DecidableEq

/-- The wording of an operating system's error. -/
def OsError.message : OsError → String
  | .notFound => "No such file or directory (os error 2)"
  | .alreadyExists => "File exists (os error 17)"
  | .notADirectory => "Not a directory (os error 20)"
  | .isADirectory => "Is a directory (os error 21)"
  | .nameTooLong => "File name too long (os error 36)"
  | .other wording => wording

/-- An entry of an archive. -/
structure Packed where
  /-- The name, with slashes between its parts and after a directory. -/
  name : String
  /-- Whether everybody may execute it. -/
  executable : Bool
  /-- The text, empty for a directory. -/
  text : String
deriving DecidableEq

/-- What a file holds. -/
inductive Content where
  /-- A text. -/
  | text (text : String)
  /-- An archive. -/
  | archive (entries : List Packed)
deriving DecidableEq

/-- The beginning of what a file holds: so many characters of a text, or entries of an archive. -/
def Content.take (n : Nat) : Content → Content
  | .text t => .text (String.ofList (t.toList.take n))
  | .archive entries => .archive (entries.take n)

/-- What stands at a path. -/
inductive Node where
  /-- A directory. -/
  | directory
  /-- A file, and whether it may be executed. -/
  | file (content : Content) (executable : Bool)
deriving DecidableEq

/-- Whether the node is a directory. -/
def Node.isDirectory : Node → Bool
  | .directory => true
  | .file _ _ => false

/-- The nodes below the root, by the names that lead to them. -/
abbrev Entries := List (List String × Node)

/-- The node at the end of some names. -/
def Entries.get? : Entries → List String → Option Node
  | [], _ => none
  | (k, n) :: rest, names => if k = names then some n else get? rest names

/-- The entries with a node put at the end of some names. -/
def Entries.set : Entries → List String → Node → Entries
  | [], names, n => [(names, n)]
  | (k, m) :: rest, names, n =>
    if k = names then (k, n) :: rest else (k, m) :: set rest names n

/-- What an operation meets that fails although its path leads where it should. -/
structure Fault where
  /-- The reason that the system gives. -/
  reason : OsError
  /-- How much was done before: so many directories were made, or a file was made, or emptied, and
  so much was written to it. Nothing was done at all where this is missing. -/
  done : Option Nat := none
deriving DecidableEq

end Files

/-- The files of a computer. -/
structure Files where
  /-- The names that lead to the working directory. -/
  workingDirectory : List String := []
  /-- The nodes below the root. -/
  entries : Files.Entries := []
  /-- What the coming operations meet, one after the other. Those after the last one meet
  nothing. -/
  faults : List (Option Files.Fault) := []

namespace Files

/-- The node at the end of some names; the root is a directory. -/
def get? (fs : Files) (names : List String) : Option Node :=
  if names = [] then some .directory else fs.entries.get? names

/-- The files with a node put at the end of some names. -/
def set (fs : Files) (names : List String) (n : Node) : Files :=
  { fs with entries := fs.entries.set names n }

/-- The names that a path stands for. -/
def locate (fs : Files) (p : Path) : List String :=
  p.components fs.workingDirectory

/-- The names of the directories that a path leads into and out of again. -/
def detours (fs : Files) (p : Path) : List (List String) :=
  p.detours fs.workingDirectory

/-- Whether a name is too long to be one. -/
def isTooLong (name : String) : Bool :=
  255 < name.utf8ByteSize

/-- Follows names from a directory up to the last one, which need not exist. -/
def reachFrom (fs : Files) (passed : List String) : List String → Except OsError Unit
  | [] => .ok ()
  | [name] => if isTooLong name then .error .nameTooLong else .ok ()
  | name :: rest =>
    if isTooLong name then .error .nameTooLong
    else match fs.get? (passed ++ [name]) with
      | none => .error .notFound
      | some (.file _ _) => .error .notADirectory
      | some .directory => reachFrom fs (passed ++ [name]) rest

/-- Follows a path up to its last name, which need not exist. To go up from a directory is to
follow a name in it. -/
def reach (fs : Files) (p : Path) : Except OsError Unit := do
  (fs.detours p).forM fun names ↦ reachFrom fs [] (names ++ [".."])
  reachFrom fs [] (fs.locate p)

/-- The node at a path, or why there is none. -/
def lookup (fs : Files) (p : Path) : Except OsError Node := do
  fs.reach p
  match fs.get? (fs.locate p) with
  | none => .error .notFound
  | some n => .ok n

/-- The text of a file. -/
def read (fs : Files) (p : Path) : Except OsError String := do
  match ← fs.lookup p with
  | .directory => .error .isADirectory
  | .file (.text t) _ => .ok t
  | .file (.archive _) _ => .ok ""

/-- The files with a file written at a path. A file that was there stays executable if it was. -/
def write (fs : Files) (p : Path) (content : Content) : Except OsError Files := do
  fs.reach p
  match fs.get? (fs.locate p) with
  | some .directory => .error .isADirectory
  | some (.file _ executable) => .ok (fs.set (fs.locate p) (.file content executable))
  | none => .ok (fs.set (fs.locate p) (.file content false))

/-- The files with the file at a path made executable. -/
def makeExecutable (fs : Files) (p : Path) : Except OsError Files := do
  match ← fs.lookup p with
  | .directory => .ok fs
  | .file content _ => .ok (fs.set (fs.locate p) (.file content true))

/-- Makes the directories that names lead through, from a directory on. What was made before a
failure stays. -/
def makeFrom (fs : Files) (passed : List String) : List String → Except OsError Unit × Files
  | [] => (.ok (), fs)
  | name :: rest =>
    if isTooLong name then (.error .nameTooLong, fs)
    else match fs.get? (passed ++ [name]) with
      | some .directory => makeFrom fs (passed ++ [name]) rest
      | some (.file _ _) => (.error .alreadyExists, fs)
      | none => makeFrom (fs.set (passed ++ [name]) .directory) (passed ++ [name]) rest

/-- Makes the directories at the ends of some names, and those that lead to them, one after the
other. -/
def makeAll (fs : Files) : List (List String) → Except OsError Unit × Files
  | [] => (.ok (), fs)
  | names :: rest =>
    match fs.makeFrom [] names with
    | (.ok (), fs) => makeAll fs rest
    | failed => failed

/-- The names of the directories that are made for a path: those that it leads into and out of
again are made on the way. -/
def goals (fs : Files) (p : Path) : List (List String) :=
  fs.detours p ++ [fs.locate p]

/-- Why directories cannot be made that lead through a file: unless the file stands where the last
of them should, or behind one that had to be made, it is no directory. -/
def refusal (fs : Files) (p : Path) (e : OsError) : OsError :=
  match fs.reach p with
  | .error .notADirectory => .notADirectory
  | _ => e

/-- Makes the directory at a path and those that lead to it, where they are missing. -/
def makeDirectories (fs : Files) (p : Path) : Except OsError Unit × Files :=
  ((fs.makeAll (fs.goals p)).1.mapError (fs.refusal p), (fs.makeAll (fs.goals p)).2)

/-! ### Operations that may fail -/

/-- Something to do to the files at a path. -/
inductive Operation where
  /-- Make the directory and those that lead to it. -/
  | makeDirectories (path : Path)
  /-- Write a file. -/
  | write (path : Path) (content : Content)
  /-- Make the file executable. -/
  | makeExecutable (path : Path)

/-- The files that an operation made, or those of before where it failed. -/
def orElse (fs : Files) : Except OsError Files → Except OsError Unit × Files
  | .ok fs' => (.ok (), fs')
  | .error e => (.error e, fs)

/-- So many of the names that lead to some goals, those to the first goal first. -/
def firstNames : Nat → List (List String) → List (List String)
  | _, [] => []
  | n, names :: rest => names.take n :: firstNames (n - names.length) rest

namespace Operation

/-- The path of an operation. -/
def path : Operation → Path
  | makeDirectories p => p
  | write p _ => p
  | makeExecutable p => p

/-- What an operation does that meets nothing. -/
def whole (fs : Files) : Operation → Except OsError Unit × Files
  | makeDirectories p => fs.makeDirectories p
  | write p content => fs.orElse (fs.write p content)
  | makeExecutable p => fs.orElse (fs.makeExecutable p)

/-- What an operation does before something happens to it. -/
def part (fs : Files) : Operation → Option Nat → Except OsError Unit × Files
  | _, none => (.ok (), fs)
  | makeDirectories p, some n => fs.makeAll (firstNames n (fs.goals p))
  | write p content, some n => fs.orElse (fs.write p (content.take n))
  | makeExecutable _, some _ => (.ok (), fs)

end Operation

/-- What the next operation meets. -/
def fault? (fs : Files) : Option Fault :=
  fs.faults.head?.join

/-- The files for the operation after the next one, as far as that does not change them. -/
def next (fs : Files) : Files :=
  { fs with faults := fs.faults.tail }

/-- What an operation does. It fails where it meets something, or where it could not have been done
anyway. -/
def Operation.apply (fs : Files) (op : Operation) : Except OsError Unit × Files :=
  match fs.fault? with
  | none => op.whole fs.next
  | some fault =>
    match op.part fs.next fault.done with
    | (.ok (), fs') => (.error fault.reason, fs')
    | failed => failed

/-! ### Walking -/

/-- The name of an entry that stands directly below some names. -/
def nameBelow (names : List String) (entry : List String × Node) : Option String :=
  match entry.1.getLast? with
  | some name => if entry.1 = names ++ [name] then some name else none
  | none => none

/-- The names of the entries directly below some names, in order. -/
def list (fs : Files) (names : List String) : List String :=
  Text.sortDistinct (fs.entries.filterMap (nameBelow names))

/-- The paths at and below a path with their nodes, each directory before what is in it. The
first argument bounds the depth. -/
def walkFrom (fs : Files) : Nat → Path → Node → List (Path × Node)
  | 0, _, _ => []
  | _ + 1, p, .file c x => [(p, .file c x)]
  | depth + 1, p, .directory =>
    (p, .directory) :: (fs.list (fs.locate p)).flatMap fun name ↦
      match fs.get? (fs.locate (p.child name)) with
      | some n => walkFrom fs depth (p.child name) n
      | none => []

/-- The largest number of names that lead to an entry. -/
def depth (fs : Files) : Nat :=
  fs.entries.foldl (fun d e ↦ max d e.1.length) 0

/-- The paths at and below a path with their nodes. -/
def walk (fs : Files) (p : Path) : Except OsError (List (Path × Node)) := do
  return walkFrom fs (fs.depth + 1) p (← fs.lookup p)

/-- The wording of a failed walk that began at a path. -/
def walkMessage (p : Path) (e : OsError) : String :=
  "IO error for operation on " ++ p.text ++ ": " ++ e.message

end Files

end Toolsmith
