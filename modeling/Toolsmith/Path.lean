/-!
# Paths

A path is a text as somebody wrote it, followed by the names of entries below. The written part is
kept as it is, because messages show it. A name below is never empty and holds no slash.

## Main definitions

* `Path`: the paths.
* `Path.join`: a written path continued by another.
* `Path.text`: the text of a path.
* `Path.fileName?`: the last name of a path.
* `Path.components`: the names from the root of all files, given the working directory.
* `Path.detours`: the directories that a path leads into and out of again.
-/

namespace Toolsmith

/-- A written path and the names of entries below it. -/
structure Path where
  /-- The path as somebody wrote it. -/
  written : String
  /-- The names of entries below. -/
  below : List String := []
deriving DecidableEq, Inhabited

namespace Path

/-- Whether a written path begins at the root. -/
def isAbsolute (s : String) : Bool :=
  s.toList.head? = some '/'

/-- A written path continued by another one, which replaces it where it begins at the root. -/
def join (a b : String) : String :=
  if isAbsolute b then b
  else if a.isEmpty ∨ a.toList.getLast? = some '/' then a ++ b
  else a ++ "/" ++ b

/-- The path of an entry below. -/
def child (p : Path) (name : String) : Path :=
  { p with below := p.below ++ [name] }

/-- The text of a path. -/
def text (p : Path) : String :=
  p.below.foldl join p.written

/-- One step along the pieces of a written path: a dot stays, two dots go up. -/
def followStep (names : List String) (piece : List Char) : List String :=
  if piece = [] ∨ piece = ['.'] then names
  else if piece = ['.', '.'] then names.dropLast
  else names ++ [String.ofList piece]

/-- The names that a written path leads to from a directory. -/
def follow (start : List String) (s : String) : List String :=
  (s.toList.splitOn '/').foldl followStep start

/-- The names from which the pieces of a written path go up. -/
def turns : List String → List (List Char) → List (List String)
  | _, [] => []
  | names, piece :: rest =>
    let later := turns (followStep names piece) rest
    if piece = ['.', '.'] then names :: later else later

/-- Where a written path starts: at the root, or in the working directory. -/
def start (workingDirectory : List String) (p : Path) : List String :=
  if isAbsolute p.written then [] else workingDirectory

/-- The names from the root of all files. -/
def components (workingDirectory : List String) (p : Path) : List String :=
  follow (p.start workingDirectory) p.written ++ p.below

/-- The names of the directories that a path leads into and, by two dots, out of again. Each of
them has to be there, although the names that the path stands for do not tell of it. -/
def detours (workingDirectory : List String) (p : Path) : List (List String) :=
  turns (p.start workingDirectory) (p.written.toList.splitOn '/')

/-- The last name of a written path; none where it ends in nothing or goes up. -/
def lastName? (s : String) : Option String :=
  let names := (s.toList.splitOn '/').filter fun piece ↦ piece ≠ [] ∧ piece ≠ ['.']
  (names.getLast?.filter (· ≠ ['.', '.'])).map String.ofList

/-- The last name of a path. -/
def fileName? (p : Path) : Option String :=
  p.below.getLast?.or (lastName? p.written)

end Path

end Toolsmith
