import Toolsmith.Compile
import Toolsmith.Http
import Toolsmith.Schema.Validation
import Toolsmith.Tool.Result

/-!
# Calling tools

To call a tool, its input is checked against the input schema, the URL is put together, the
request is sent, and the reply is checked against the output schema. The first step that fails
decides the result; a call always has one.

A slot of the URL takes the input's value where it is a path parameter with a value other than
null, percent-encoded, and the variable of its name as it is otherwise. What was filled in is
not looked at again.

## Main definitions

* `Tool.CallError`: the step that failed.
* `Handler.fill`: the URL text with its slots filled.
* `Handler.url`: the URL of a request.
* `Artifact.callVia`: the result of a call, with whatever answers requests.
* `Artifact.call`: the result of a call over the network.
-/

namespace Toolsmith

open Json (Value)

/-- Why a call failed. -/
inductive Tool.CallError where
  /-- The input does not have the shape of the input schema. -/
  | invalidArguments (violation : Schema.Violation)
  /-- The reply does not have the shape of the output schema. -/
  | invalidOutput (violation : Schema.Violation)
  /-- A slot of the URL has no value. -/
  | unresolvedPlaceholder (slot : String)
  /-- The URL text is no URL. -/
  | invalidUrl (url : String) (error : Url.Error)
  /-- The method is none. -/
  | invalidMethod (method : String)
  /-- The request failed at the client. -/
  | request (error : Http.ClientError)
  /-- The reply has a status other than success. -/
  | status (code : Nat) (body : String)
  /-- The reply is not JSON. -/
  | invalidJson (fault : Json.Fault)

namespace Tool.CallError

/-- The wording of a failed call. -/
def message : CallError → String
  | .invalidArguments v => "Invalid arguments: " ++ v.message
  | .invalidOutput v => "Invalid response: " ++ v.message
  | .unresolvedPlaceholder slot => "No value for URL placeholder '" ++ slot ++ "'"
  | .invalidUrl url e => "Invalid URL '" ++ url ++ "': " ++ e.message
  | .invalidMethod m => "Invalid HTTP method: " ++ m
  | .request e => "HTTP request failed: " ++ e.message
  | .status code body => s!"API call failed with status {code}: " ++ body
  | .invalidJson f => "Failed to parse response as JSON: " ++ f.message

/-- Whether the caller's input is to blame. -/
def isCallerError : CallError → Bool
  | .invalidArguments _ => true
  | _ => false

end Tool.CallError

/-! ### Values of parameters -/

/-- The text of a parameter; null has none. -/
def Json.Value.parameterText? : Value → Option String
  | .null => none
  | .string s => some s
  | v => some v.compact

/-- Whether a query parameter is sent: null, false, zero and the empty text are not. -/
def Json.Value.isTruthy : Value → Bool
  | .null => false
  | .bool b => b
  | .number n => !n.isZero
  | .string s => !s.isEmpty
  | .array _ => true
  | .object _ => true

namespace Handler

/-! ### The URL -/

/-- The text that fills a slot. -/
def slotText? (h : Handler) (environment : Table String) (input : Value) (slot : String) :
    Option (List Char) :=
  let fromInput :=
    if h.pathParams.contains slot then
      ((input.get? slot).bind Value.parameterText?).map fun t ↦ Text.encodeComponent t.toList
    else none
  fromInput.or ((environment.get? slot).map String.toList)

/-- The template with its slots filled. The second argument holds the characters of the slot
that is being read, in reverse. -/
def fillFrom (value? : String → Option (List Char)) :
    Option (List Char) → List Char → Except String (List Char)
  | none, [] => .ok []
  | some slot, [] => .ok ('{' :: slot.reverse)
  | none, c :: cs =>
    if c = '{' then fillFrom value? (some []) cs
    else (fillFrom value? none cs).map (c :: ·)
  | some slot, c :: cs =>
    if c = '}' then
      let name := String.ofList slot.reverse
      match value? name with
      | some value => (fillFrom value? none cs).map (value ++ ·)
      | none => .error name
    else fillFrom value? (some (c :: slot)) cs

/-- The URL text with its slots filled, or the first slot without a value. -/
def fill (h : Handler) (environment : Table String) (input : Value) : Except String (List Char) :=
  fillFrom (h.slotText? environment input) none h.urlTemplate.toList

/-- The pairs that an input adds to the query. -/
def queryPairs (h : Handler) (input : Value) : List (String × String) :=
  h.queryParams.filterMap fun key ↦
    (((input.get? key).filter Value.isTruthy).bind Value.parameterText?).map fun t ↦ (key, t)

/-- The URL of a request. -/
def url (h : Handler) (environment : Table String) (input : Value) : Except Tool.CallError Url := do
  let chars ← (h.fill environment input).mapError .unresolvedPlaceholder
  let u ← (Url.ofChars chars).mapError (.invalidUrl (String.ofList chars))
  return u.appendQuery (h.queryPairs input)

/-- The request with the fixed headers appended. -/
def withHeaders (h : Handler) (d : Http.Draft) : Http.Draft :=
  h.headers.foldl (fun d e ↦ d.header e.1 e.2) d

/-- The request for an input, which goes to a URL. -/
def draft (h : Handler) (u : Url) (input : Value) : Http.Draft :=
  let d := h.withHeaders (.new h.method u)
  match if h.sendBody then input.get? Compile.bodyField else none with
  | some body => d.json body.compact
  | none => d

end Handler

namespace Artifact

open Tool (CallError)

/-- The input as it is checked and sent: null stands for an object without members. -/
def normalInput : Value → Value
  | .null => .object []
  | v => v

/-- The request of a call, or the step that failed before it. -/
def prepare (a : Artifact) (environment : Table String) (input : Value) :
    Except CallError Http.Draft := do
  (a.inputSchema.validate input).mapError .invalidArguments
  let u ← a.handler.url environment input
  if Http.isToken a.handler.method then return a.handler.draft u input
  else throw (.invalidMethod a.handler.method)

/-- The value of an answer. The body of an answer without success may well be broken off. -/
def readAnswer (a : Artifact) (answer : Http.Answer) : Except CallError Value := do
  if Http.isSuccess answer.status then
    let text ← answer.body.mapError .request
    let v ← (Json.parse text).mapError .invalidJson
    (a.outputSchema.validate v).mapError .invalidOutput
    return v
  else throw (.status answer.status (answer.body.toOption.getD ""))

section Upstream

variable {σ : Type} (upstream : Http.Upstream σ)

/-- The value that a call ends in, or the step that failed. -/
def executeVia (a : Artifact) (environment : Table String) (input : Value) (state : σ) :
    Except CallError Value × σ :=
  match a.prepare environment (normalInput input) with
  | .error e => (.error e, state)
  | .ok (.error e) => (.error (.request e), state)
  | .ok (.ok request) =>
    match upstream request state with
    | (.error e, state) => (.error (.request e), state)
    | (.ok answer, state) => (a.readAnswer answer, state)

/-- The result of a call. -/
def callVia (a : Artifact) (environment : Table String) (input : Value) (state : σ) :
    Tool.Result × σ :=
  match a.executeVia upstream environment input state with
  | (.ok v, state) => (.ofJson v, state)
  | (.error e, state) =>
    (.ofError ("Error executing tool " ++ a.name ++ ": " ++ e.message), state)

end Upstream

/-- The result of a call over the network. -/
def call (a : Artifact) (environment : Table String) (input : Value) (net : Http.Network) :
    Tool.Result × Http.Network :=
  a.callVia Http.Network.upstream environment input net

end Artifact

end Toolsmith
