import Toolsmith.Files
import Toolsmith.Generation.World
import Toolsmith.Server.Mode

/-!
# Server manifests

A generated server has a manifest, a JSON file with its name, version and mode, the directory of
its tools and the identifiers of the tools.

## Main definitions

* `Generation.Manifest`: the record, with its JSON form.
* `Generation.Manifest.load`: the manifest in the directory of a server.
* `Generation.Manifest.toolsPath`: the directory of the tools.
-/

namespace Toolsmith.Generation

/-- The name of the directory of the tools in the directory of a server. -/
def toolsDirectory : String := "tools"

/-- What a server says of itself. -/
structure Manifest where
  /-- The name of the server. -/
  name : String
  /-- The version of the server. -/
  version : String
  /-- The mode of the server. -/
  mode : Server.Mode
  /-- The directory of the tools, from the directory of the server. -/
  toolsDir : String
  /-- The identifiers of the tools, in order of generation. -/
  tools : List String := []
deriving DecidableEq

namespace Manifest

open Json (Value)
open Json.Form (required defaulted)

/-- The name of the file. -/
def fileName : String := "mcp-server.json"

/-- The version of servers that are generated. -/
def generatedVersion : String := "0.1.0"

/-- The manifest of a generated server. -/
def generated (name : String) (mode : Server.Mode) (tools : List String) : Manifest :=
  { name, version := generatedVersion, mode, toolsDir := toolsDirectory, tools }

/-- The record as a JSON value. -/
def toJson (m : Manifest) : Value :=
  .object
    [("name", .string m.name), ("version", .string m.version), ("mode", .string m.mode.name),
      ("toolsDir", .string m.toolsDir), ("tools", .ofStrings m.tools)]

/-- Reads the record. -/
def decode : Json.Decoder Manifest :=
  (Manifest.mk <$> required "name" .text <*> required "version" .text
    <*> required "mode" Server.Mode.decode <*> required "toolsDir" .text
    <*> defaulted "tools" [] (.list .text)).decode "ServerManifest"

/-- The text of the file. -/
def render (m : Manifest) : String :=
  m.toJson.pretty ++ "\n"

/-- The manifest in a text. -/
def parse (s : String) : Except Json.Fault Manifest :=
  (Json.Document.ofText s).decode decode

/-- The manifest in the directory of a server. -/
def load (files : Files) (directory : Path) : Except Error Manifest := do
  let path := directory.child fileName
  let text ← (files.read path).mapError (.read path)
  (parse text).mapError fun f ↦ .template fileName f.message

/-- The directory of the tools of a server in a directory. -/
def toolsPath (m : Manifest) (directory : Path) : Path :=
  { written := Path.join directory.text m.toolsDir }

end Manifest

end Toolsmith.Generation
