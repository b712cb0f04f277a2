import Toolsmith.Collection.Basic
import Toolsmith.Json.Form
import Toolsmith.Text.Blank

/-!
# Names of tools

A tool has an identifier, a title and a description. They come from the declared name and
description of its request; where either is missing, an augmentor may be asked for a suggestion.
An identifier is in camel case and holds ASCII letters and digits only.

An augmentor may keep a state from one request to the next, such as a connection.

## Main definitions

* `Naming.spelled`: the identifier made of a title.
* `Naming.directory`: the directory name made of a folder name.
* `Naming.Augmentor`, `Naming.AugmentError`: services that suggest names, and how they fail.
* `Naming.Resolver.resolve`: the names of a tool.
-/

namespace Toolsmith

/-- The identifier, title and description of a tool. -/
structure Naming where
  /-- The identifier. -/
  identifier : String
  /-- The title. -/
  title : String
  /-- The description. -/
  description : String

namespace Naming

open Collection (Request)

/-! ### Identifiers -/

/-- The words of a title. A dash and a run of blanks each end a word, and whatever is not an
ASCII letter or digit is dropped. The flag tells whether a blank was just passed. -/
def words : Bool → List Char → List (List Char)
  | _, [] => [[]]
  | afterBlank, c :: cs =>
    if Text.isBlank c then
      if afterBlank then words true cs else [] :: words true cs
    else if c = '-' then [] :: words false cs
    else if c.isAlphanum then (words false cs).modifyHead (List.cons c)
    else words false cs

/-- A word with its first letter in upper case. -/
def capitalize : List Char → List Char
  | [] => []
  | c :: cs => c.toUpper :: cs

/-- The words as one in camel case. -/
def camelCase : List (List Char) → List Char
  | [] => []
  | w :: ws => w.map Char.toLower ++ ws.flatMap capitalize

/-- The identifier spelled by a title, which may be empty. -/
def spelled (title : String) : String :=
  String.ofList (camelCase (words false title.toList))

/-- The identifier of titles that spell none. -/
def fallbackIdentifier : String := "unnamedTool"

/-- The identifier of a tool with a title. -/
def identifierOr (title : String) : String :=
  if (spelled title).isEmpty then fallbackIdentifier else spelled title

/-! ### Directory names -/

/-- Whether a character may stand in a directory name. -/
def isDirectoryChar (c : Char) : Bool :=
  c.isAlphanum || c = '_' || c = '-'

/-- The directory name of a folder name: what may not stand there becomes an underscore. -/
def directory (name : String) : String :=
  String.ofList (name.toList.map fun c ↦ if isDirectoryChar c then c else '_')

/-! ### Suggestions -/

/-- A name and description suggested for a request. -/
structure Suggestion where
  /-- The name. -/
  name : String
  /-- The description. -/
  description : String
deriving DecidableEq

namespace Suggestion

open Json.Form (required)

/-- Reads a suggestion. -/
def decode : Json.Decoder Suggestion :=
  (Suggestion.mk <$> required "name" .text <*> required "description" .text).decode
    "NamingSuggestion"

/-- A suggestion as a JSON value. -/
def toJson (s : Suggestion) : Json.Value :=
  .object [("name", .string s.name), ("description", .string s.description)]

end Suggestion

/-- How an augmentor fails. -/
inductive AugmentError where
  /-- It cannot be used as configured. -/
  | configuration (reason : String)
  /-- Its service could not be reached. -/
  | request (reason : String)
  /-- Its service refused. -/
  | status (code : Nat) (body : String)
  /-- Its service gave an answer that makes no sense. -/
  | invalidResponse (reason : String)
deriving DecidableEq

/-- The wording of an augmentor's failure. -/
def AugmentError.message : AugmentError → String
  | .configuration reason => "Augmentation not configured: " ++ reason
  | .request reason => "Augmentation request failed: " ++ reason
  | .status code body => s!"Augmentation service returned status {code}: " ++ body
  | .invalidResponse reason => "Invalid augmentation response: " ++ reason

/-- A service that suggests names, with a state. -/
structure Augmentor (σ : Type) where
  /-- The suggestion for a request. -/
  suggest : Request → σ → Except AugmentError Suggestion × σ

/-- What follows from an augmentor's failure. -/
inductive FailurePolicy where
  /-- The failure is passed on. -/
  | abort
  /-- The names are made without a suggestion. -/
  | fallback
deriving DecidableEq, Inhabited

/-! ### Resolution -/

/-- The title of requests without a name. -/
def unnamedTitle : String := "Unnamed Tool"

/-- A declared text, where it is not empty. -/
def declared (text : Option String) : Option String :=
  text.filter (!·.isEmpty)

/-- The names that follow from the request alone. -/
def ofRequest (r : Request) : Naming :=
  let title := (declared r.name).getD unnamedTitle
  { identifier := identifierOr title
    title
    description := (declared r.description).getD ("Handles the " ++ r.method ++ " request.") }

/-- The names that follow from the request and a suggestion. The declared name stays the title,
but the suggested name gives the identifier. -/
def ofSuggestion (r : Request) (s : Suggestion) : Naming :=
  let plain := ofRequest r
  let trimmed := Text.trim s.name
  let name := if trimmed.isEmpty then plain.title else trimmed
  { identifier := identifierOr name
    title := (declared r.name).getD name
    description :=
      if (Text.trim s.description).isEmpty then plain.description else s.description }

/-- Whether a request lacks a name or a description. -/
def isIncomplete (r : Request) : Bool :=
  (declared r.name).isNone || (declared r.description).isNone

/-- How names are resolved. -/
structure Resolver (σ : Type) where
  /-- The augmentor, if there is one. -/
  augmentor : Option (Augmentor σ) := none
  /-- What follows from its failure. -/
  policy : FailurePolicy := .abort

/-- The names of a request. The augmentor is asked where the name or description is missing. -/
def Resolver.resolve {σ : Type} (resolver : Resolver σ) (r : Request) (s : σ) :
    Except AugmentError Naming × σ :=
  match resolver.augmentor with
  | none => (.ok (ofRequest r), s)
  | some augmentor =>
    if isIncomplete r then
      match augmentor.suggest r s with
      | (.ok suggestion, s) => (.ok (ofSuggestion r suggestion), s)
      | (.error e, s) =>
        match resolver.policy with
        | .abort => (.error e, s)
        | .fallback => (.ok (ofRequest r), s)
    else (.ok (ofRequest r), s)

end Naming

end Toolsmith
