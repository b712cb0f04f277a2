import Toolsmith.Collection.Basic
import Toolsmith.Json.Form

/-!
# Collection documents

A collection is read from a Postman document, versions 2.0 and 2.1. Most members may be missing
or null, and several may be spelled in more than one way: a description as a text or as an
object with its content, a request as its bare URL, a URL as a text or in parts, a host or path
as a text or as segments. A node with an `item` member is a folder, whatever else it holds.

## Main definitions

* `CollectionError`: what is wrong with a document.
* `Collection.ofJson`: the collection in a JSON value.
* `Collection.ofText`: the collection in a text.
-/

namespace Toolsmith

/-- What is wrong with a collection document. -/
inductive CollectionError where
  /-- The text is not JSON, or a part has the wrong shape. -/
  | json (fault : Json.Fault)
  /-- The root is no object. -/
  | rootNotObject
deriving DecidableEq

/-- The wording of a collection error. -/
def CollectionError.message : CollectionError → String
  | .json f => "Invalid collection JSON: " ++ f.message
  | .rootNotObject => "Invalid collection: document root must be a JSON object"

namespace Collection.Document

open Json (Decoder Node Value)
open Json.Form (optional)

/-- Reads a description; an empty one counts as absent. -/
def description : Decoder (Option String) := fun n ↦
  (Json.oneOf "RawDescription"
    [ fun n ↦ (Decoder.text n).map some,
      (optional "content" .text).decodeObject "struct variant RawDescription::Rich" ] n).map
    (·.filter (!·.isEmpty))

/-- Reads a member that holds a description. -/
def descriptionField : Json.Form (Option String) :=
  (·.join) <$> optional "description" description

/-- Reads one segment of a host or path. -/
def segment : Decoder (Option String) :=
  Json.oneOf "RawSegment"
    [ fun n ↦ (Decoder.text n).map some,
      (optional "value" .text).decodeObject "struct variant RawSegment::Object" ]

/-- Reads a host or path, joining its segments. -/
def segments (separator : String) : Decoder String :=
  Json.oneOf "RawSegments"
    [ .text,
      fun n ↦ (Decoder.list segment n).map fun parts ↦
        separator.intercalate (parts.filterMap id) ]

/-- The text of a port with its colon. -/
def portText : Option Value → String
  | some (.string port) => if port.isEmpty then "" else ":" ++ port
  | some (.number port) => ":" ++ String.ofList port.text
  | _ => ""

/-- The text of a path with its leading slash. -/
def pathText (path : String) : String :=
  if path.isEmpty then "" else if path.startsWith "/" then path else "/" ++ path

/-- The URL put together from its parts. -/
def assemble (protocol host : Option String) (port : Option Value) (path : Option String) :
    String :=
  (match protocol with
    | some p => if p.isEmpty then "" else p ++ "://"
    | none => "") ++
  host.getD "" ++ portText port ++ pathText (path.getD "")

/-- Reads a path variable or a query parameter. -/
def parameter : Decoder Variable :=
  (Variable.mk <$> optional "key" .text <*> optional "value" .any <*> descriptionField).decode
    "RawVariable"

/-- The address whose parts were read. -/
def addressOfParts (raw protocol host : Option String) (port : Option Value)
    (path : Option String) (query pathVars : Option (List Variable)) : Address :=
  { raw := raw.getD (assemble protocol host port path)
    pathVariables := pathVars.getD []
    query := query.getD [] }

/-- Reads a URL. -/
def address : Decoder Address :=
  Json.oneOf "RawUrl"
    [ fun n ↦ (Decoder.text n).map fun raw ↦ { raw },
      (addressOfParts <$> optional "raw" .text <*> optional "protocol" .text
        <*> optional "host" (segments ".") <*> optional "port" .any
        <*> optional "path" (segments "/") <*> optional "query" (.list parameter)
        <*> optional "variable" (.list parameter)).decode "RawUrlParts" ]

/-- Reads a body. -/
def body : Decoder Body :=
  (Body.mk <$> optional "mode" .text <*> optional "raw" .text).decode "RawBody"

/-- Reads a request: what it sends, and a description of its own. -/
def request : Decoder (Payload × Option String) :=
  Json.oneOf "RawRequest"
    [ fun n ↦ (Decoder.text n).map fun raw ↦ ({ address := { raw } }, none),
      ((fun method url body description ↦
          ({ method, address := url.getD {}, body }, description)) <$>
        optional "method" .text <*> optional "url" address <*> optional "body" body
          <*> descriptionField).decode "RawRequestObject" ]

/-- Reads a saved response. -/
def response : Decoder Example :=
  (Example.mk <$> optional "name" .text <*> optional "code" .natural16
    <*> optional "body" .text).decode "RawResponse"

/-- The node made of what was read for it. -/
def assembleItem (name description : Option String) (children : Option (List Item))
    (request : Option (Payload × Option String)) (responses : Option (List Example)) : Item :=
  match children with
  | some children => .folder name children
  | none => .request
    { name
      description := description.or (request.bind (·.2))
      payload := request.map (·.1)
      responses := responses.getD [] }

/-- Reads a node. The first argument bounds the depth of folders. -/
def item : Nat → Decoder Item
  | 0, n => .error (n.mismatch "struct RawItem")
  | depth + 1, n =>
    (assembleItem <$> optional "name" .text <*> descriptionField
      <*> optional "item" (.list (item depth)) <*> optional "request" request
      <*> optional "response" (.list response)).decode "RawItem" n

/-- Reads the name and the description of a collection. -/
def info : Decoder (Option String × Option String) :=
  (Prod.mk <$> optional "name" .text <*> descriptionField).decode "RawInfo"

/-- Reads a collection. The argument bounds the depth of folders. -/
def collection (depth : Nat) : Decoder Collection :=
  ((fun info items ↦
      { name := info.bind (·.1), description := info.bind (·.2), items := items.getD [] }) <$>
    optional "info" info <*> optional "item" (.list (item depth))).decode "RawCollection"

end Collection.Document

namespace Collection

/-- The collection in a JSON value. -/
def ofJson (v : Json.Value) : Except CollectionError Collection :=
  if v.isObject then
    (Document.collection v.depth (.ofValue v)).mapError .json
  else .error .rootNotObject

/-- The collection in a text. -/
def ofText (s : String) : Except CollectionError Collection := do
  ofJson (← (Json.parse s).mapError .json)

end Collection

end Toolsmith
