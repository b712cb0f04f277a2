import Toolsmith.Url.Host

/-!
# URL paths

A path is a list of segments. It is read segment by segment: a segment that is one dot, in any of
its spellings, stands for nothing, and one that is two dots takes the segment before it away.
Either leaves an empty segment where it ends the path.

## Main definitions

* `Url.Path.step`: a path after one more segment.
* `Url.Path.ofSegments`: the path spelled by segments.
* `Url.Path.text`: the text of a path.
-/

namespace Toolsmith.Url.Path

/-- Whether a character stands for itself in a fragment. -/
def isFragmentPlain (c : Char) : Bool :=
  Host.isNoControl c && !([' ', '"', '<', '>', '`'].contains c)

/-- Whether a character stands for itself in a path. -/
def isPlain (c : Char) : Bool :=
  isFragmentPlain c && !(['#', '?', '{', '}'].contains c)

/-- Whether a character stands for itself in a user name or password. -/
def isUserPlain (c : Char) : Bool :=
  isPlain c && !(['/', ':', ';', '=', '@', '[', '\\', ']', '^', '|'].contains c)

/-- How many dots a text spells, where a dot may be written by its byte; none where anything else
is in it. -/
def dots? : List Char → Option Nat
  | [] => some 0
  | '.' :: rest => (dots? rest).map (· + 1)
  | '%' :: '2' :: e :: rest => if e = 'e' ∨ e = 'E' then (dots? rest).map (· + 1) else none
  | _ => none

/-- A path after one more segment, which may end the path. -/
def step (path : List (List Char)) (segment : List Char) (isLast : Bool) : List (List Char) :=
  match dots? segment with
  | some 1 => if isLast then path ++ [[]] else path
  | some 2 => if isLast then path.dropLast ++ [[]] else path.dropLast
  | _ => path ++ [segment]

/-- A path continued by segments. -/
def extend (path : List (List Char)) : List (List Char) → List (List Char)
  | [] => path
  | [segment] => step path segment true
  | segment :: rest => extend (step path segment false) rest

/-- The path spelled by segments, which are encoded on the way. -/
def ofSegments (segments : List (List Char)) : List (List Char) :=
  extend [] (segments.map (Text.percentEncode isPlain))

/-- The text of a path. -/
def text (path : List (List Char)) : List Char :=
  path.flatMap ('/' :: ·)

end Toolsmith.Url.Path
