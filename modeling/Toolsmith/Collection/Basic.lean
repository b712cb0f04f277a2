import Toolsmith.Json.Value
import Toolsmith.Text.Blank
import Toolsmith.Text.LetterCase

/-!
# Request collections

A collection is an ordered tree of folders and requests. Texts that a document may spell in
several ways are plain here. A request may lack a payload, that is, anything to send; such a
request is kept but makes no tool.

## Main definitions

* `Collection`, `Collection.Item`, `Collection.Request`, `Collection.Payload`: the tree.
* `Collection.requestCount`: how many requests have a payload.
* `Collection.Request.method`: the method that a request is sent with.
-/

namespace Toolsmith

namespace Collection

/-- A path variable or a query parameter. -/
structure Variable where
  /-- The key. -/
  key : Option String := none
  /-- An example value, which may be null. -/
  value : Option Json.Value := none
  /-- A description. -/
  description : Option String := none

/-- The key of path variables that have none. -/
def pathPlaceholder : String := "systemVariable"

/-- The key of query parameters that have none. -/
def queryPlaceholder : String := "systemquery"

namespace Variable

/-- The key, or another text where there is none or it is empty. -/
def keyOr (v : Variable) (fallback : String) : String :=
  match v.key with
  | some k => if k.isEmpty then fallback else k
  | none => fallback

end Variable

/-- Where a request goes. -/
structure Address where
  /-- The URL as declared, placeholders and all. -/
  raw : String := ""
  /-- The path variables, in order of declaration. -/
  pathVariables : List Variable := []
  /-- The query parameters, in order of declaration. -/
  query : List Variable := []

namespace Address

/-- The keys of the path variables. -/
def pathKeys (a : Address) : List String :=
  a.pathVariables.map (·.keyOr pathPlaceholder)

/-- The keys of the query parameters. -/
def queryKeys (a : Address) : List String :=
  a.query.map (·.keyOr queryPlaceholder)

end Address

/-- A request body. -/
structure Body where
  /-- How the body is declared: `raw`, `formdata` and so on. -/
  mode : Option String := none
  /-- The raw text. -/
  raw : Option String := none

namespace Body

/-- The raw text where the body is raw, or does not say what it is, and the text is not empty. -/
def rawText? (b : Body) : Option String :=
  match b.mode with
  | some mode => if mode = "raw" then b.raw.filter (!·.isEmpty) else none
  | none => b.raw.filter (!·.isEmpty)

end Body

/-- What a request sends. -/
structure Payload where
  /-- The method as declared. -/
  method : Option String := none
  /-- Where the request goes. -/
  address : Address := {}
  /-- The body. -/
  body : Option Body := none

namespace Payload

/-- The text of a raw body that is not empty. -/
def rawBody? (p : Payload) : Option String :=
  p.body.bind Body.rawText?

end Payload

/-- A saved example of a response. -/
structure Example where
  /-- The name of the example. -/
  name : Option String := none
  /-- The status code. -/
  code : Option Nat := none
  /-- The body. -/
  body : Option String := none

/-- A request with its saved responses. -/
structure Request where
  /-- The declared name. -/
  name : Option String := none
  /-- The declared description. -/
  description : Option String := none
  /-- What is sent. -/
  payload : Option Payload := none
  /-- The saved responses, in order of declaration. -/
  responses : List Example := []

/-- The method of requests that declare none. -/
def defaultMethod : String := "GET"

namespace Request

/-- The declared method in upper case and without blanks around it, `GET` where there is none. -/
def method (r : Request) : String :=
  match r.payload.bind (·.method) with
  | some m =>
    let m := Text.trim m
    if m.isEmpty then defaultMethod else Text.toUpperCase m
  | none => defaultMethod

end Request

/-- A node of a collection. -/
inductive Item where
  /-- A folder with its children in order of declaration. -/
  | folder (name : Option String) (children : List Item)
  /-- A request. -/
  | request (request : Request)

namespace Item

instance : Inhabited Item := ⟨.request {}⟩

/-- Whether the node is a folder. -/
def isFolder : Item → Bool
  | .folder _ _ => true
  | .request _ => false

mutual
/-- The number of requests with a payload at and below a node. -/
def requestCount : Item → Nat
  | .folder _ children => requestCountAll children
  | .request r => if r.payload.isSome then 1 else 0

/-- The number of requests with a payload at and below several nodes. -/
def requestCountAll : List Item → Nat
  | [] => 0
  | item :: items => item.requestCount + requestCountAll items
end

end Item

end Collection

/-- A collection of requests. -/
structure Collection where
  /-- The name. -/
  name : Option String := none
  /-- The description. -/
  description : Option String := none
  /-- The nodes at the top, in order of declaration. -/
  items : List Collection.Item := []

namespace Collection

/-- The number of requests with a payload. -/
def requestCount (c : Collection) : Nat :=
  Item.requestCountAll c.items

end Collection

end Toolsmith
