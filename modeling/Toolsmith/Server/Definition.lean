import Toolsmith.Artifact

/-!
# What a server tells of itself

The records that a server answers with: who it is, what it can do, and which tools it has.

## Main definitions

* `Server.Identity`, `Server.Capabilities`, `Server.Greeting`: the answer to the first request.
* `Server.Definition`, `Server.Listing`: the tools.
* `Server.Arguments`: the parameters of a tool call.
-/

namespace Toolsmith.Server

open Json (Decoder Value)
open Json.Form (required optional omissible defaulted)

/-- The version of the protocol. -/
def protocolVersion : String := "2025-06-18"

/-- The name and version of a client or server. -/
structure Identity where
  /-- The name. -/
  name : String
  /-- The version. -/
  version : String
deriving DecidableEq

namespace Identity

/-- The record as a JSON value. -/
def toJson (i : Identity) : Value :=
  .object [("name", .string i.name), ("version", .string i.version)]

/-- Reads the record. -/
def decode : Decoder Identity :=
  (Identity.mk <$> required "name" .text <*> required "version" .text).decode "Implementation"

end Identity

/-- What a server can do with tools. -/
structure ToolsCapability where
  /-- Whether it tells when its tools change. -/
  listChanged : Bool := false
deriving DecidableEq

namespace ToolsCapability

/-- The record as a JSON value. -/
def toJson (c : ToolsCapability) : Value :=
  .object [("listChanged", .bool c.listChanged)]

/-- Reads the record. -/
def decode : Decoder ToolsCapability :=
  (ToolsCapability.mk <$> defaulted "listChanged" false .bool).decode "ToolsCapability"

end ToolsCapability

/-- What a server can do. -/
structure Capabilities where
  /-- What it can do with tools. -/
  tools : Option ToolsCapability := none
deriving DecidableEq

namespace Capabilities

/-- The record as a JSON value. -/
def toJson (c : Capabilities) : Value :=
  .object (c.tools.map fun t ↦ ("tools", t.toJson)).toList

/-- Reads the record. -/
def decode : Decoder Capabilities :=
  (Capabilities.mk <$> optional "tools" ToolsCapability.decode).decode "ServerCapabilities"

end Capabilities

/-- The answer to a client's first request. -/
structure Greeting where
  /-- The version of the protocol. -/
  version : String := protocolVersion
  /-- What the server can do. -/
  capabilities : Capabilities := { tools := some {} }
  /-- Who the server is. -/
  server : Identity
  /-- What the client should know. -/
  instructions : Option String := none

namespace Greeting

/-- The record as a JSON value. -/
def toJson (g : Greeting) : Value :=
  .object <|
    [("protocolVersion", .string g.version), ("capabilities", g.capabilities.toJson),
      ("serverInfo", g.server.toJson)] ++
    (g.instructions.map fun s ↦ ("instructions", Value.string s)).toList

/-- Reads the record. -/
def decode : Decoder Greeting :=
  (Greeting.mk <$> required "protocolVersion" .text <*> required "capabilities" Capabilities.decode
    <*> required "serverInfo" Identity.decode <*> optional "instructions" .text).decode
    "InitializeResult"

end Greeting

/-- What a client is told of a tool. -/
structure Definition where
  /-- The name. -/
  name : String
  /-- The title. -/
  title : Option String := none
  /-- What the tool does. -/
  description : Option String := none
  /-- The JSON Schema of the input. -/
  inputSchema : Value
  /-- The JSON Schema of the output. -/
  outputSchema : Option Value := none

namespace Definition

/-- What a client is told of an artifact. The output schema is told where it is that of an
object. -/
def ofArtifact (a : Artifact) : Definition :=
  { name := a.name
    title := some a.title
    description := some a.description
    inputSchema := a.inputSchema.toJson
    outputSchema := if a.outputSchema.fields?.isSome then some a.outputSchema.toJson else none }

/-- The record as a JSON value. -/
def toJson (d : Definition) : Value :=
  .object <|
    [("name", .string d.name)] ++
    (d.title.map fun s ↦ ("title", Value.string s)).toList ++
    (d.description.map fun s ↦ ("description", Value.string s)).toList ++
    [("inputSchema", d.inputSchema)] ++
    (d.outputSchema.map fun v ↦ ("outputSchema", v)).toList

/-- Reads the record. -/
def decode : Decoder Definition :=
  (Definition.mk <$> required "name" .text <*> omissible "title" .text
    <*> omissible "description" .text <*> required "inputSchema" .any
    <*> omissible "outputSchema" .any).decode "McpTool"

end Definition

/-- The tools of a server. -/
structure Listing where
  /-- The tools. -/
  tools : List Definition
  /-- Where the listing goes on. -/
  nextCursor : Option String := none

namespace Listing

/-- The record as a JSON value. -/
def toJson (l : Listing) : Value :=
  .object <|
    [("tools", .array (l.tools.map Definition.toJson))] ++
    (l.nextCursor.map fun s ↦ ("nextCursor", Value.string s)).toList

/-- Reads the record. -/
def decode : Decoder Listing :=
  (Listing.mk <$> required "tools" (.list Definition.decode)
    <*> optional "nextCursor" .text).decode "ListToolsResult"

end Listing

/-- The parameters of a tool call. -/
structure Arguments where
  /-- The name of the tool. -/
  name : String
  /-- The input of the tool. -/
  arguments : Value := .null

namespace Arguments

/-- The record as a JSON value. -/
def toJson (a : Arguments) : Value :=
  .object [("name", .string a.name), ("arguments", a.arguments)]

/-- Reads the record. -/
def decode : Decoder Arguments :=
  (Arguments.mk <$> required "name" .text <*> defaulted "arguments" .null .any).decode
    "CallToolParams"

end Arguments

end Toolsmith.Server
