import Toolsmith.Handler
import Toolsmith.Schema.JsonSchema

/-!
# Artifacts

An artifact is one generated tool: its names, the schemas of its input and output, and the
handler behind it. It is stored as a JSON text in a file that is named after it.

## Main definitions

* `Artifact`: the record.
* `Artifact.render`, `Artifact.parse`: the text of an artifact and back.
-/

namespace Toolsmith

/-- A generated tool. -/
structure Artifact where
  /-- The identifier, which also names the file. -/
  name : String
  /-- The title. -/
  title : String
  /-- What the tool does. -/
  description : String
  /-- The schema of the input. -/
  inputSchema : Schema
  /-- The schema of the output. -/
  outputSchema : Schema
  /-- The HTTP request behind the tool. -/
  handler : Handler
deriving BEq

namespace Artifact

open Json (Value)
open Json.Form (required)

/-- The extension of artifact files. -/
def extension : String := "json"

/-- The name of the artifact's file. -/
def fileName (a : Artifact) : String :=
  a.name ++ "." ++ extension

/-- The record as a JSON value. -/
def toJson (a : Artifact) : Value :=
  .object
    [("name", .string a.name), ("title", .string a.title), ("description", .string a.description),
      ("inputSchema", a.inputSchema.toJson), ("outputSchema", a.outputSchema.toJson),
      ("handler", a.handler.toJson)]

/-- Reads the record. -/
def decode : Json.Decoder Artifact :=
  (Artifact.mk <$> required "name" .text <*> required "title" .text
    <*> required "description" .text <*> required "inputSchema" Schema.decode
    <*> required "outputSchema" Schema.decode <*> required "handler" Handler.decode).decode
    "ToolArtifact"

/-- The text of the artifact's file. -/
def render (a : Artifact) : String :=
  a.toJson.pretty ++ "\n"

/-- The artifact in a text. -/
def parse (s : String) : Except Json.Fault Artifact :=
  (Json.Document.ofText s).decode decode

end Artifact

end Toolsmith
