import Toolsmith.Table
import Toolsmith.Text.Base64
import Toolsmith.Url.Basic

/-!
# HTTP requests and the network

A request is put together from a method, a URL, headers and a body, and then sent. The network
is a value: the replies that wait to be given, one for each request that arrives, and the
requests that have arrived. A request that cannot be put together never reaches the network,
and one that gets no reply fails at the client. Encrypted connections are never answered. The
network is one upstream of many: a tool works with whatever answers its requests.

## Main definitions

* `Http.Request`, `Http.Reply`, `Http.ClientError`: what is exchanged, and what goes wrong.
* `Http.Network`: the replies to come and the requests so far.
* `Http.Draft`: a request in the making, which may already have failed.
* `Http.send`: sends a draft.
* `Http.Upstream`: whatever answers requests.
-/

namespace Toolsmith.Http

/-- A request. -/
structure Request where
  /-- The method. -/
  method : String
  /-- The URL, without user name and password. -/
  url : Url
  /-- The headers, in order. -/
  headers : List (String × String) := []
  /-- The body. -/
  body : Option String := none

/-- A reply. -/
structure Reply where
  /-- The status code. -/
  status : Nat
  /-- The body. -/
  body : String

/-- Whether a status code stands for success. -/
def isSuccess (status : Nat) : Bool :=
  200 ≤ status && status < 300

/-- What goes wrong at the client. -/
inductive ClientError where
  /-- The request cannot be put together. -/
  | builder
  /-- The URL has a scheme or host that requests cannot be sent to. -/
  | builderFor (url : String)
  /-- The request got no reply. -/
  | sending (url : String)
  /-- The body of the reply is not what was asked for. -/
  | decoding
  /-- Whatever else the client reports, in its own words. -/
  | reported (wording : String)
deriving DecidableEq

/-- The wording of a client error. -/
def ClientError.message : ClientError → String
  | .builder => "builder error"
  | .builderFor url => "builder error for url (" ++ url ++ ")"
  | .sending url => "error sending request for url (" ++ url ++ ")"
  | .decoding => "error decoding response body"
  | .reported wording => wording

/-! ### Tokens -/

/-- Whether a character may stand in a method or the name of a header. -/
def isTokenChar (c : Char) : Bool :=
  c.isAlphanum || "!#$%&'*+-.^_`|~".toList.contains c

/-- Whether a text is a method or the name of a header. -/
def isToken (s : String) : Bool :=
  !s.isEmpty && s.toList.all isTokenChar

/-- Whether a text may be the value of a header: no controls but the tab. -/
def isHeaderValue (s : String) : Bool :=
  s.toList.all fun c ↦ c = '\t' || (0x20 ≤ c.toNat && c.toNat ≠ 0x7F)

/-- A text in lower case, as far as it is in ASCII. -/
def asciiLower (s : String) : String :=
  String.ofList (s.toList.map Char.toLower)

/-! ### Drafts -/

/-- A request in the making. -/
abbrev Draft := Except ClientError Request

namespace Draft

/-- The header that carries a user name and password. -/
def basicHeader (u : Url) : List (String × String) :=
  if u.user.isEmpty && u.password.isEmpty then []
  else
    let bytes := Text.percentDecode u.user ++ 0x3A :: Text.percentDecode u.password
    [("authorization", "Basic " ++ String.ofList (Text.base64 bytes))]

/-- A request without headers of its own. User name and password move from the URL to a
header. -/
def new (method : String) (u : Url) : Draft :=
  if u.host.all (·.isEmpty) then .error (.builderFor u.text)
  else .ok { method, url := { u with user := [], password := [] }, headers := basicHeader u }

/-- The request with a header appended. -/
def header (d : Draft) (name value : String) : Draft := do
  let r ← d
  if isToken name ∧ isHeaderValue value then
    return { r with headers := r.headers ++ [(name, value)] }
  else throw .builder

/-- The request with a JSON text as its body, and a header that says so unless there is one of
its kind. -/
def json (d : Draft) (body : String) : Draft := do
  let r ← d
  let declared := r.headers.any fun h ↦ asciiLower h.1 = "content-type"
  return { r with
    headers := if declared then r.headers else r.headers ++ [("content-type", "application/json")]
    body := some body }

end Draft

/-! ### The network -/

/-- The replies to come and the requests so far. -/
structure Network where
  /-- Whether requests arrive at all. -/
  reachable : Bool := true
  /-- The replies that wait to be given. -/
  replies : List Reply := []
  /-- The requests that have arrived, in order. -/
  arrived : List Request := []

/-- Sends a draft. -/
def send (d : Draft) (net : Network) : Except ClientError Reply × Network :=
  match d with
  | .error e => (.error e, net)
  | .ok r =>
    let url := r.url.text
    let scheme := String.ofList r.url.scheme
    if scheme = "http" then
      if net.reachable then
        let net := { net with arrived := net.arrived ++ [r] }
        match net.replies with
        | [] => (.error (.sending url), net)
        | reply :: rest => (.ok reply, { net with replies := rest })
      else (.error (.sending url), net)
    else if scheme = "https" then (.error (.sending url), net)
    else (.error (.builderFor url), net)

/-! ### Upstreams -/

/-- What a request is answered with: a status code, and the body or what broke it off. -/
structure Answer where
  /-- The status code. -/
  status : Nat
  /-- The body, or what went wrong while it was read. -/
  body : Except ClientError String

/-- A reply as an answer, whose body is whole. -/
def Reply.answer (r : Reply) : Answer :=
  { status := r.status, body := .ok r.body }

/-- What a request is handed to: it answers, or fails at the client, and leaves a state behind.
Whatever the client does on the way to an answer, such as going where it is redirected, is part of
the upstream. -/
abbrev Upstream (σ : Type) :=
  Request → σ → Except ClientError Answer × σ

/-- The network as an upstream. -/
def Network.upstream : Upstream Network := fun r net ↦
  let (outcome, net) := send (.ok r) net
  (outcome.map Reply.answer, net)

/-- The headers of a request as they arrive: names in lower case, values without blanks around
them, sorted by name. -/
def Request.arrivedHeaders (r : Request) : List (String × String) :=
  let trimmed := r.headers.map fun h ↦
    (asciiLower h.1, (String.ofList ((h.2.toList.dropWhile isBlank).reverse.dropWhile
      isBlank).reverse))
  trimmed.mergeSort fun a b ↦ a.1 ≤ b.1
where
  /-- Whether a character is dropped at the ends of a header's value. -/
  isBlank (c : Char) : Bool :=
    c = ' ' || c = '\t'

end Toolsmith.Http
