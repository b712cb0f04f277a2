import Toolsmith.Json.Form
import Toolsmith.Text.Blank

/-!
# Server modes

A server talks to its clients over standard input and output, or over HTTP with or without
sessions.

## Main definitions

* `Server.Mode`: the modes.
* `Server.Mode.parse`: the mode of a name.
-/

namespace Toolsmith.Server

/-- How a server talks to its clients. -/
inductive Mode where
  /-- One message a line on standard input and output. -/
  | stdio
  /-- HTTP requests that stand alone. -/
  | httpStateless
  /-- HTTP requests in sessions. -/
  | httpSession
deriving DecidableEq, Inhabited

namespace Mode

/-- The name of a mode. -/
def name : Mode → String
  | .stdio => "stdio"
  | .httpStateless => "http-stateless"
  | .httpSession => "http-session"

/-- A description in one line. -/
def description : Mode → String
  | .stdio => "Standard input/output, for local MCP clients"
  | .httpStateless => "Streamable HTTP without sessions"
  | .httpSession => "Streamable HTTP with session management"

/-- Whether the mode serves over HTTP. -/
def isHttp : Mode → Bool
  | .stdio => false
  | .httpStateless => true
  | .httpSession => true

/-- The modes by name. -/
def byName : Table Mode :=
  [("stdio", .stdio), ("http-stateless", .httpStateless), ("http-session", .httpSession)]

/-- The mode of a name, blanks around it aside. -/
def parse (s : String) : Option Mode :=
  byName.get? (Text.trim s)

/-- Reads the name of a mode. -/
def decode : Json.Decoder Mode :=
  Json.named byName

/-- The wording for a name that is no mode's. -/
def unknownMessage (s : String) : String :=
  "Unknown server mode '" ++ s ++ "' (expected stdio, http-stateless or http-session)"

end Mode

end Toolsmith.Server
