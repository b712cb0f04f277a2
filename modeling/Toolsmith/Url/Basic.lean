import Toolsmith.Url.Path

/-!
# URLs

Absolute URLs, read by the rules that browsers follow. Blanks and controls around the text are
dropped, and so are tabs and line breaks anywhere. The schemes of the web and of files are
special: they have a host (or may leave it out, for files) and take a backslash for a slash. The
text of a URL is its normal form.

## Main definitions

* `Url`: a URL in parts, and `Url.text`, its normal form.
* `Url.parse`: the URL spelled by a text.
* `Url.appendQuery`: a URL with pairs added to its query.
-/

namespace Toolsmith

/-- What follows the scheme and host of a URL. -/
inductive Url.Tail where
  /-- Segments, each after a slash. -/
  | segments (path : List (List Char))
  /-- A text of no known structure. -/
  | plain (text : List Char)
deriving DecidableEq

/-- A URL in parts, each in its normal form. -/
structure Url where
  /-- The scheme. -/
  scheme : List Char
  /-- The user name, where there is a host. -/
  user : List Char := []
  /-- The password. -/
  password : List Char := []
  /-- The host. -/
  host : Option Url.Host
  /-- The port, where it is not the scheme's own. -/
  port : Option Nat := none
  /-- What follows the host. -/
  path : Url.Tail
  /-- The query. -/
  query : Option (List Char) := none
  /-- The fragment. -/
  fragment : Option (List Char) := none
deriving DecidableEq

namespace Url

/-! ### Text -/

/-- The text of user name and password. -/
def credentials (u : Url) : List Char :=
  if u.user.isEmpty && u.password.isEmpty then []
  else u.user ++ (if u.password.isEmpty then [] else ':' :: u.password) ++ ['@']

/-- The text of the host with what belongs to it. -/
def authority (u : Url) : List Char :=
  match u.host with
  | none => []
  | some h =>
    ['/', '/'] ++ u.credentials ++ h.text ++
      (match u.port with
        | some p => ':' :: Nat.toDigits 10 p
        | none => [])

/-- The text of the path. Without a host, a path that begins with two slashes is kept apart from
one by a dot. -/
def pathText (u : Url) : List Char :=
  match u.path, u.host with
  | .plain t, _ => t
  | .segments ([] :: s :: rest), none => '/' :: '.' :: Path.text ([] :: s :: rest)
  | .segments path, _ => Path.text path

/-- A part with the character that leads it in, where the part is there. -/
def ledBy (c : Char) : Option (List Char) → List Char
  | some part => c :: part
  | none => []

/-- The text of a URL, as characters. -/
def chars (u : Url) : List Char :=
  u.scheme ++ ':' :: (u.authority ++ u.pathText ++ ledBy '?' u.query ++ ledBy '#' u.fragment)

/-- The text of a URL. -/
def text (u : Url) : String :=
  String.ofList u.chars

/-! ### Schemes -/

/-- How the rest of a URL depends on its scheme. -/
inductive SchemeKind where
  /-- A scheme of the web. -/
  | web
  /-- The scheme of files. -/
  | file
  /-- Any other scheme. -/
  | other
deriving DecidableEq

/-- The kind of a scheme. -/
def schemeKind (scheme : List Char) : SchemeKind :=
  let s := String.ofList scheme
  if s = "http" ∨ s = "https" ∨ s = "ws" ∨ s = "wss" ∨ s = "ftp" then .web
  else if s = "file" then .file
  else .other

/-- The port that a scheme uses where none is given. -/
def defaultPort? (scheme : List Char) : Option Nat :=
  let s := String.ofList scheme
  if s = "http" ∨ s = "ws" then some 80
  else if s = "https" ∨ s = "wss" then some 443
  else if s = "ftp" then some 21
  else none

/-- Whether a character separates segments. -/
def isSlash (kind : SchemeKind) (c : Char) : Bool :=
  c = '/' || (kind != .other && c = '\\')

/-- Whether a character may stand in a scheme after its first letter. -/
def isSchemeChar (c : Char) : Bool :=
  c.isAlphanum || c = '+' || c = '-' || c = '.'

/-- The scheme that a text begins with, and what follows its colon. -/
def scheme? (cs : List Char) : Option (List Char × List Char) :=
  match cs.head?.any Char.isAlpha, cs.dropWhile isSchemeChar with
  | true, ':' :: rest => some ((cs.takeWhile isSchemeChar).map Char.toLower, rest)
  | _, _ => none

/-! ### Parts -/

/-- Whether a character ends the host and what belongs to it. -/
def endsAuthority (kind : SchemeKind) (c : Char) : Bool :=
  isSlash kind c || c = '?' || c = '#'

/-- The text before the last occurrence of a character, and the text after it. -/
def splitLast? (c : Char) (cs : List Char) : Option (List Char × List Char) :=
  if cs.contains c then
    let after := (cs.reverse.takeWhile (· ≠ c)).reverse
    some (cs.take (cs.length - after.length - 1), after)
  else none

/-- User name and password, both encoded. -/
def userOf (cs : List Char) : List Char × List Char :=
  let encode := Text.percentEncode Path.isUserPlain
  (encode (cs.takeWhile (· ≠ ':')), encode ((cs.dropWhile (· ≠ ':')).drop 1))

/-- The host of a text and what follows it. A colon ends it, unless it stands in brackets. -/
def takeHost : Bool → List Char → List Char × List Char
  | _, [] => ([], [])
  | inside, c :: cs =>
    if c = ':' ∧ !inside then ([], c :: cs)
    else
      let parts := takeHost (if c = '[' then true else if c = ']' then false else inside) cs
      (c :: parts.1, parts.2)

/-- The port at the beginning of a text, which ends there or before another part. -/
def port? (scheme : List Char) (cs : List Char) : Except Error (Option Nat) :=
  let digits := cs.takeWhile Char.isDigit
  let rest := cs.dropWhile Char.isDigit
  let n := digits.foldl (fun n c ↦ n * 10 + (c.toNat - '0'.toNat)) 0
  if 65535 < n then .error .invalidPort
  else if rest.isEmpty then
    .ok (if digits.isEmpty ∨ defaultPort? scheme = some n then none else some n)
  else .error .invalidPort

/-- A host with what belongs to it. -/
structure Authority where
  /-- The user name. -/
  user : List Char
  /-- The password. -/
  password : List Char
  /-- The host. -/
  host : Host
  /-- The port. -/
  port : Option Nat

/-- Reads the host and what belongs to it, and tells what follows. -/
def takeAuthority (kind : SchemeKind) (scheme : List Char) (cs : List Char) :
    Except Error (Authority × List Char) := do
  let whole := cs.takeWhile fun c ↦ !endsAuthority kind c
  let rest := cs.dropWhile fun c ↦ !endsAuthority kind c
  let (credentials, hostPort) ← match splitLast? '@' whole with
    | none => pure ([], whole)
    | some ([], hostPort) =>
      if hostPort.isEmpty ∧ ¬ rest.isEmpty then throw .emptyHost else pure ([], hostPort)
    | some parts => pure parts
  let (user, password) := userOf credentials
  let (hostChars, afterHost) := takeHost false hostPort
  if kind = .web ∧ hostChars.isEmpty then throw .emptyHost
  let host ← if kind = .web then Host.ofChars hostChars else Host.ofCharsOutside hostChars
  if host.isEmpty ∧ ¬ afterHost.isEmpty then throw .emptyHost
  let (portChars, rest) :=
    -- A backslash ends the port even where it does not separate segments.
    (afterHost.takeWhile (· ≠ '\\'), afterHost.dropWhile (· ≠ '\\') ++ rest)
  let port ← port? scheme (portChars.drop 1)
  if host.isEmpty ∧ ¬ (user.isEmpty ∧ password.isEmpty) then throw .emptyHost
  return (⟨user, password, host, port⟩, rest)

/-- Whether a character ends a path. -/
def endsPath (c : Char) : Bool :=
  c = '?' || c = '#'

/-- The pieces of a text between the slashes. -/
def segmentsOf (kind : SchemeKind) (cs : List Char) : List (List Char) :=
  (cs.map fun c ↦ if isSlash kind c then '/' else c).splitOn '/'

/-- The path that a text spells after a host, where it begins with a slash if it is not empty. -/
def pathAfterHost (kind : SchemeKind) (cs : List Char) : List (List Char) :=
  match cs with
  | [] => if kind = .other then [] else [[]]
  | c :: rest => Path.ofSegments (segmentsOf kind (if isSlash kind c then rest else c :: rest))

/-- Whether a character stands for itself in a query. -/
def isQueryPlain (kind : SchemeKind) (c : Char) : Bool :=
  Host.isNoControl c && !([' ', '"', '#', '<', '>'].contains c) &&
    !(kind != .other && c = '\'')

/-- The query and the fragment that follow a path. -/
def takeQuery (kind : SchemeKind) (cs : List Char) : Option (List Char) × Option (List Char) :=
  let fragmentOf : List Char → Option (List Char)
    | '#' :: f => some (Text.percentEncode Path.isFragmentPlain f)
    | _ => none
  match cs with
  | '?' :: rest =>
    (some (Text.percentEncode (isQueryPlain kind) (rest.takeWhile (· ≠ '#'))),
      fragmentOf (rest.dropWhile (· ≠ '#')))
  | rest => (none, fragmentOf rest)

/-! ### Files -/

/-- Whether a segment is the letter of a drive with a colon or a bar. -/
def isDrive : List Char → Bool
  | [letter, mark] => letter.isAlpha && (mark = ':' || mark = '|')
  | _ => false

/-- A path whose drive keeps its place: two dots do not take it away. -/
def extendFile (path : List (List Char)) : List (List Char) → List (List Char)
  | [] => path
  | segment :: rest =>
    let isLast := rest.isEmpty
    let path := match path, Path.dots? segment with
      | [d], some 2 =>
        if isDrive d then (if isLast then [d, []] else [d]) else Path.step path segment isLast
      | [], none =>
        if isDrive segment then [[segment.headD ' ', ':']] else Path.step path segment isLast
      | _, _ => Path.step path segment isLast
    extendFile path rest

/-- The path of a file, without empty segments at its beginning. -/
def filePath (cs : List Char) : List (List Char) :=
  let segments := (segmentsOf .file cs).dropWhile (·.isEmpty)
  let path := extendFile [] (segments.map (Text.percentEncode Path.isPlain))
  let path := path.dropWhile (·.isEmpty)
  if path.isEmpty then [[]] else path

/-- Whether a path begins with a drive. -/
def beginsWithDrive (path : List (List Char)) : Bool :=
  path.head?.any isDrive

/-- The host of a file and its path. A path that begins with a drive belongs to no host. -/
def takeFile (cs : List Char) : Except Error (Host × List (List Char)) :=
  match cs with
  | a :: b :: rest =>
    if isSlash .file a ∧ isSlash .file b then do
      let hostChars := rest.takeWhile fun c ↦ !isSlash .file c
      if isDrive hostChars then return (.domain [], filePath rest)
      else if hostChars.isEmpty then return (.domain [], filePath rest)
      else
        let host ← Host.ofChars hostChars
        let path := filePath (rest.drop hostChars.length)
        if host = .domain "localhost".toList ∨ beginsWithDrive path then return (.domain [], path)
        else return (host, path)
    else return (.domain [], filePath cs)
  | _ => return (.domain [], filePath cs)

/-! ### Reading -/

/-- Whether a character is dropped at the ends of a text. -/
def isMargin (c : Char) : Bool :=
  c.toNat ≤ 0x20

/-- Whether a character is dropped wherever it stands. -/
def isDropped (c : Char) : Bool :=
  c = '\t' || c = '\n' || c = '\r'

/-- The text that counts. -/
def cleaned (cs : List Char) : List Char :=
  let cs := cs.dropWhile isMargin
  (cs.reverse.dropWhile isMargin).reverse.filter (!isDropped ·)

/-- The URL spelled by characters. -/
def ofChars (cs : List Char) : Except Error Url :=
  match scheme? (cleaned cs) with
  | none => .error .noBase
  | some (scheme, rest) =>
    let kind := schemeKind scheme
    match kind with
    | .web => do
      let (a, rest) ← takeAuthority kind scheme (rest.dropWhile (isSlash kind))
      let (query, fragment) := takeQuery kind (rest.dropWhile (!endsPath ·))
      return {
        scheme, user := a.user, password := a.password, host := some a.host, port := a.port
        path := .segments (pathAfterHost kind (rest.takeWhile (!endsPath ·)))
        query, fragment }
    | .file => do
      let (query, fragment) := takeQuery kind (rest.dropWhile (!endsPath ·))
      let (host, path) ← takeFile (rest.takeWhile (!endsPath ·))
      return { scheme, host := some host, path := .segments path, query, fragment }
    | .other =>
      match rest with
      | '/' :: '/' :: rest => do
        let (a, rest) ← takeAuthority kind scheme rest
        let (query, fragment) := takeQuery kind (rest.dropWhile (!endsPath ·))
        return {
          scheme, user := a.user, password := a.password, host := some a.host, port := a.port
          path := .segments (pathAfterHost kind (rest.takeWhile (!endsPath ·)))
          query, fragment }
      | rest =>
        let (query, fragment) := takeQuery kind (rest.dropWhile (!endsPath ·))
        let before := rest.takeWhile (!endsPath ·)
        let path := match before with
          | '/' :: _ => Tail.segments (pathAfterHost kind before)
          | _ => .plain (Text.percentEncode Host.isNoControl before)
        .ok { scheme, host := none, path, query, fragment }

/-- The URL spelled by a text. -/
def parse (s : String) : Except Error Url :=
  ofChars s.toList

/-! ### Queries -/

/-- One pair of a query. -/
def encodePair (p : String × String) : List Char :=
  Text.encodeForm p.1.toList ++ '=' :: Text.encodeForm p.2.toList

/-- A query with a pair added. -/
def addPair (query : List Char) (p : String × String) : List Char :=
  if query.isEmpty then encodePair p else query ++ '&' :: encodePair p

/-- The URL with pairs added to its query. Without a pair it stays as it is. -/
def appendQuery (u : Url) (pairs : List (String × String)) : Url :=
  if pairs.isEmpty then u
  else { u with query := some (pairs.foldl addPair (u.query.getD [])) }

end Url

end Toolsmith
