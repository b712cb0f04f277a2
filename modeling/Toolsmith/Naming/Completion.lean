import Toolsmith.Http
import Toolsmith.Naming

/-!
# Names from a chat completion service

An augmentor that describes a request to a chat completion service and takes the suggestion from
its answer. The answer has to hold, as the content of its first choice, a JSON text with a name
and a description.

## Main definitions

* `Naming.Completion`: how the service is reached.
* `Naming.Completion.prompt`: the description of a request.
* `Naming.Completion.readAnswer`: the suggestion in an answer.
* `Naming.Completion.augmentor`: the augmentor.
-/

namespace Toolsmith.Naming

open Collection (Request)
open Json (Value)

/-- The model that is asked unless another is named. -/
def defaultModel : String := "gpt-4o-mini"

/-- How a chat completion service is reached. -/
structure Completion where
  /-- The key that requests carry. -/
  apiKey : String
  /-- The URL of the service, without a slash at its end. -/
  baseUrl : String := "https://api.openai.com/v1"
  /-- The model that is asked. -/
  model : String := defaultModel
  /-- How many seconds an answer may take. -/
  timeout : Nat := 30
deriving DecidableEq

namespace Completion

/-- The service at another URL. -/
def withBaseUrl (c : Completion) (url : String) : Completion :=
  { c with baseUrl := String.ofList (url.toList.reverse.dropWhile (· = '/')).reverse }

/-- The URL that requests go to. -/
def completionsUrl (c : Completion) : String :=
  c.baseUrl ++ "/chat/completions"

/-- The environment variable with the key. -/
def keyVariable : String := "OPENAI_API_KEY"

/-- The environment variable with the URL. -/
def baseUrlVariable : String := "OPENAI_BASE_URL"

/-- The service that the environment names. -/
def ofEnvironment (environment : Table String) : Except AugmentError Completion :=
  match (environment.get? keyVariable).filter fun key ↦ !(Text.trim key).isEmpty with
  | none => .error (.configuration (keyVariable ++ " is not set"))
  | some apiKey =>
    match environment.get? baseUrlVariable with
    | some url => .ok (({ apiKey } : Completion).withBaseUrl url)
    | none => .ok { apiKey }

/-! ### Questions -/

/-- What the service is told to do. -/
def instructions : String :=
  "You name API operations for an MCP tool catalog. " ++
  "Given an HTTP request, answer with a JSON object " ++
  "\x7b\"name\": string, \"description\": string\x7d. " ++
  "The name is a short human title of two to five words. " ++
  "The description is one sentence saying what the operation does."

/-- What stands for a text that is absent. -/
def absent : String := "(none)"

/-- The description of a request. -/
def prompt (r : Request) : String :=
  "\n".intercalate <|
    ["Name: " ++ r.name.getD absent, "Method: " ++ r.method] ++
    (match r.payload with
      | some p =>
        ("URL: " ++ p.address.raw) :: (p.rawBody?.map fun body ↦ "Body: " ++ body).toList
      | none => []) ++
    ["Description: " ++ r.description.getD absent]

/-- A message of a role. -/
def chatMessage (role content : String) : Value :=
  .object [("role", .string role), ("content", .string content)]

/-- The body of the request to the service. -/
def question (c : Completion) (r : Request) : Value :=
  .object
    [("model", .string c.model),
      ("response_format", .object [("type", .string "json_object")]),
      ("messages", .array [chatMessage "system" instructions, chatMessage "user" (prompt r)])]

/-- The request to the service. -/
def draft (c : Completion) (r : Request) : Http.Draft :=
  match Url.parse c.completionsUrl with
  | .error _ => .error .builder
  | .ok url =>
    (Http.Draft.header (.new "POST" url) "authorization" ("Bearer " ++ c.apiKey)).json
      (c.question r).compact

/-! ### Answers -/

/-- The content of the first choice. -/
def content? (answer : Value) : Option String := do
  let choice ← (← (← answer.get? "choices").array?).head?
  ((← choice.get? "message").get? "content").bind Value.string?

/-- The suggestion in an answer. -/
def readAnswer (answer : Value) : Except AugmentError Suggestion :=
  match content? answer with
  | none => .error (.invalidResponse "no message content")
  | some content =>
    match (Json.Document.ofText content).decode Suggestion.decode with
    | .error fault => .error (.invalidResponse (fault.message ++ ": " ++ content))
    | .ok suggestion =>
      if (Text.trim suggestion.name).isEmpty then .error (.invalidResponse "empty name")
      else .ok suggestion

/-- The suggestion in a reply. -/
def readReply (reply : Http.Reply) : Except AugmentError Suggestion :=
  if Http.isSuccess reply.status then
    match Json.parse reply.body with
    | .error _ => .error (.invalidResponse Http.ClientError.decoding.message)
    | .ok answer => readAnswer answer
  else .error (.status reply.status reply.body)

/-- Asks the service. -/
def ask (c : Completion) (r : Request) (net : Http.Network) :
    Except AugmentError Suggestion × Http.Network :=
  match Http.send (c.draft r) net with
  | (.error e, net) => (.error (.request e.message), net)
  | (.ok reply, net) => (readReply reply, net)

/-- The augmentor that asks the service. -/
def augmentor (c : Completion) : Augmentor Http.Network :=
  ⟨c.ask⟩

end Completion

end Toolsmith.Naming
