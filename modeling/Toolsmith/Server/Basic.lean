import Toolsmith.Path
import Toolsmith.Server.Definition
import Toolsmith.Server.Message
import Toolsmith.Tool.Call

/-!
# Servers

A server answers the messages of its clients. It knows a table of tools by name; a tool that is
added under a name that is there takes the other's place. The tools act on a state, such as the
network.

## Main definitions

* `Server.Tool`: a tool with what a client is told of it.
* `Server.Failure`: why a tool or a server fails.
* `Server`: the servers.
* `Server.answer`: the response to a message.
-/

namespace Toolsmith

namespace Server

open Json (Value)

/-- Why a tool or a server fails. -/
inductive Failure where
  /-- A connection cannot be made. -/
  | transport (reason : String)
  /-- The file of a tool cannot be loaded. -/
  | artifact (path : Path) (reason : String)
  /-- No tool has a name. -/
  | toolNotFound (name : String)
deriving DecidableEq

/-- The wording of a failure. -/
def Failure.message : Failure → String
  | .transport reason => "Transport error: " ++ reason
  | .artifact path reason => "Failed to load tool '" ++ path.text ++ "': " ++ reason
  | .toolNotFound name => "Tool not found: " ++ name

/-- Why a server cannot listen on an address. -/
inductive ListenError where
  /-- Somebody else listens there. -/
  | addressInUse
  /-- There is nothing to listen with. -/
  | notSupported
deriving DecidableEq

/-- The wording of why a server cannot listen. -/
def ListenError.message : ListenError → String
  | .addressInUse => "Address already in use (os error 98)"
  | .notSupported => "Operation not supported (os error 95)"

/-- The failure to listen on an address. -/
def cannotListen (address : String) (e : ListenError) : Failure :=
  .transport ("cannot listen on " ++ address ++ ": " ++ e.message)

/-- A tool that acts on a state. -/
structure Tool (σ : Type) where
  /-- What a client is told of the tool. -/
  definition : Definition
  /-- What a call does. -/
  call : Value → σ → Except Failure Toolsmith.Tool.Result × σ

/-- The tool of an artifact, which sends requests to an upstream. -/
def Tool.ofArtifactVia {σ : Type} (upstream : Http.Upstream σ) (environment : Table String)
    (a : Artifact) : Tool σ where
  definition := .ofArtifact a
  call input state :=
    let (result, state) := a.callVia upstream environment input state
    (.ok result, state)

/-- The tool of an artifact, which sends requests to the network. -/
def Tool.ofArtifact (environment : Table String) (a : Artifact) : Tool Http.Network :=
  .ofArtifactVia Http.Network.upstream environment a

end Server

/-- A server whose tools act on a state. -/
structure Server (σ : Type) where
  /-- Who the server is. -/
  identity : Server.Identity
  /-- The tools by name, in order of first addition. -/
  tools : Table (Server.Tool σ) := []

namespace Server

open Json (Value)

variable {σ : Type}

/-- The server with a tool added. -/
def add (s : Server σ) (t : Tool σ) : Server σ :=
  { s with tools := s.tools.insert t.definition.name t }

/-- The server with several tools added in order. -/
def addAll (s : Server σ) (ts : List (Tool σ)) : Server σ :=
  ts.foldl add s

/-- What clients are told of the tools. -/
def listing (s : Server σ) : Listing :=
  { tools := s.tools.map (·.2.definition) }

/-- The result of a tool call. A tool that fails has a result too. -/
def runTool (t : Tool σ) (input : Value) (state : σ) : Toolsmith.Tool.Result × σ :=
  match t.call input state with
  | (.ok result, state) => (result, state)
  | (.error e, state) => (.ofError e.message, state)

/-- The response to the request of a tool call. -/
def callTool (s : Server σ) (id : RequestId) (params : Option Value) (state : σ) :
    Response × σ :=
  match params with
  | none => (.failure (some id) RpcError.invalidParams "Missing params", state)
  | some params =>
    match Arguments.decode (.ofValue params) with
    | .error f =>
      (.failure (some id) RpcError.invalidParams ("Invalid params: " ++ f.message), state)
    | .ok a =>
      match s.tools.get? a.name with
      | none =>
        (.failure (some id) RpcError.invalidParams (Failure.toolNotFound a.name).message, state)
      | some t =>
        let (result, state) := runTool t a.arguments state
        (.success id result.toJson, state)

/-- The response to a request. -/
def answerRequest (s : Server σ) (id : RequestId) (c : Call) (state : σ) : Response × σ :=
  if c.method = "initialize" then
    (.success id ({ server := s.identity } : Greeting).toJson, state)
  else if c.method = "ping" then (.success id (.object []), state)
  else if c.method = "tools/list" then (.success id s.listing.toJson, state)
  else if c.method = "tools/call" then s.callTool id c.params state
  else
    (.failure (some id) RpcError.methodNotFound ("Method not found: " ++ c.method), state)

/-- The response to a text that should be a message; a notification has none. -/
def answer (s : Server σ) (text : String) (state : σ) : Option Response × σ :=
  match Message.parse text with
  | .error f =>
    (some (.failure none RpcError.parseError ("Parse error: " ++ f.message)), state)
  | .ok (.notification _) => (none, state)
  | .ok (.request id c) =>
    let (response, state) := s.answerRequest id c state
    (some response, state)

end Server

end Toolsmith
