import Toolsmith.Artifact
import Toolsmith.Naming
import Toolsmith.Schema.Guess

/-!
# Compiling requests to tools

The input schema of a tool has a field for each path variable and each query parameter, and one
for a raw body. Its output schema follows from one saved response. The URL of the handler is the
declared one without query and fragment, with the placeholders of variables turned into slots.
Where a shape cannot be told from its example, it stays unconstrained.

## Main definitions

* `Compile.inputSchema`, `Compile.outputSchema`: the schemas of a request.
* `Compile.urlTemplate`: the URL of a handler.
* `Compile.artifact?`: the tool of a request.
-/

namespace Toolsmith.Compile

open Collection (Address Example Payload Request Variable)

/-- The input field that holds the body. -/
def bodyField : String := "body"

/-- The description of a body of unknown shape. -/
def bodyDescription : String := "JSON request body"

/-- The description of an output of unknown shape. -/
def outputDescription : String := "The successful response from the API."

/-- A variable's own description where it has one that is not empty. -/
def describe (v : Variable) (fallback : String) : String :=
  match v.description with
  | some d => if d.isEmpty then fallback else d
  | none => fallback

/-- Adds the field of a path variable. -/
def addPathField (b : Schema.Builder) (v : Variable) : Schema.Builder :=
  let key := v.keyOr Collection.pathPlaceholder
  b.scalar key (.guess? v.value) (some (describe v ("Path parameter: " ++ key))) true

/-- Adds the field of a query parameter, unless its key is that of a path variable. -/
def addQueryField (pathKeys : List String) (b : Schema.Builder) (v : Variable) :
    Schema.Builder :=
  let key := v.keyOr Collection.queryPlaceholder
  if pathKeys.contains key then b
  else b.scalar key (.guess? v.value) (some (describe v ("Query parameter: " ++ key))) false

/-- The schema of objects like an example: a required scalar field for each member. -/
def likeExample (members : Table Json.Value) : Schema :=
  (members.foldl (fun b e ↦ b.scalar e.1 (.guess e.2) none true) ({} : Schema.Builder)).build

/-- The schema of a raw body. -/
def bodySchema (raw : String) : Schema :=
  match Json.parse raw with
  | .ok (.object members) => likeExample members
  | _ => .unconstrained (some bodyDescription)

/-- The input schema of a request. -/
def inputSchema (p : Payload) : Schema :=
  let b := p.address.pathVariables.foldl addPathField ({} : Schema.Builder)
  let b := p.address.query.foldl (addQueryField p.address.pathKeys) b
  match p.rawBody? with
  | some raw => (b.field bodyField (bodySchema raw) false).build
  | none => b.build

/-- The place of the response that the output schema follows from: the first with status 200 or
201, else the first. -/
def selectIndex? (responses : List Example) : Option Nat :=
  (responses.findIdx? fun r ↦ r.code == some 200 || r.code == some 201).or
    (if responses.isEmpty then none else some 0)

/-- The response that the output schema follows from. -/
def selectResponse (responses : List Example) : Option Example :=
  (selectIndex? responses).bind (responses[·]?)

/-- The output schema of a request with saved responses. -/
def outputSchema (responses : List Example) : Schema :=
  match ((selectResponse responses).bind (·.body)).map Json.parse with
  | some (.ok (.object (m :: ms))) => likeExample (m :: ms)
  | _ => .unconstrained (some outputDescription)

/-! ### URLs -/

/-- The text with every pair of a character replaced by the character alone, from the left. -/
def halvePairs (c : Char) : List Char → List Char
  | x :: y :: rest =>
    if x = c ∧ y = c then c :: halvePairs c rest else x :: halvePairs c (y :: rest)
  | short => short

/-- A segment of a URL, turned into a slot where it is a colon and a declared key. -/
def slotSegment (keys : List String) : List Char → List Char
  | ':' :: key =>
    if keys.contains (String.ofList key) then '{' :: (key ++ ['}']) else ':' :: key
  | segment => segment

/-- The URL of a handler, as characters. -/
def templateChars (keys : List String) (raw : List Char) : List Char :=
  let base := raw.takeWhile fun c ↦ c ≠ '?' ∧ c ≠ '#'
  let base := halvePairs '}' (halvePairs '{' base)
  if keys.isEmpty then base else ['/'].intercalate ((base.splitOn '/').map (slotSegment keys))

/-- The URL of a handler. -/
def urlTemplate (a : Address) : String :=
  String.ofList (templateChars a.pathKeys a.raw.toList)

/-! ### Tools -/

/-- The handler of a request with a payload. -/
def handler (r : Request) (p : Payload) : Handler :=
  { method := r.method
    urlTemplate := urlTemplate p.address
    pathParams := p.address.pathKeys
    queryParams := p.address.queryKeys
    sendBody := p.rawBody?.isSome
    headers := Handler.defaultHeaders }

/-- The tool of a request under given names; none where the request has no payload. -/
def artifact? (r : Request) (n : Naming) : Option Artifact :=
  r.payload.map fun p ↦
    { name := n.identifier
      title := n.title
      description := n.description
      inputSchema := inputSchema p
      outputSchema := outputSchema r.responses
      handler := handler r p }

end Toolsmith.Compile
