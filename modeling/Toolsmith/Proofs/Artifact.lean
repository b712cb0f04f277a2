import Toolsmith.Artifact
import Toolsmith.Proofs.Json.Record
import Toolsmith.Proofs.Schema.RoundTrip

/-!
# Artifacts read back from their texts

The text of an artifact holds everything about it: the parser of artifacts finds the same names,
schemas and handler again. The one limit is that of the reader, which goes no deeper than
`Json.maxDepth` levels.

## Main definitions

* `Artifact.WellFormed`: the tables in the artifact hold each name once.

## Main statements

* `Handler.decode_toJson`, `Artifact.decode_toJson`: the records are read from their values.
* `Artifact.parse_render_of_wellFormed`: an artifact is read back from its text.
-/

namespace Toolsmith

open Json (Value)

/-! ### Handlers -/

namespace Handler

open Json.Form (Reads)

/-- A handler is read from its value, as long as no header comes twice. -/
theorem decode_toJson {h : Handler} (distinct : h.headers.names.Nodup) :
    Handler.decode (.ofValue h.toJson) = .ok h := by
  have method : Reads (.required "method" .text) [("method", .string h.method)] h.method :=
    .required rfl
  have url : Reads (.required "urlTemplate" .text) [("urlTemplate", .string h.urlTemplate)]
      h.urlTemplate := .required rfl
  have path : Reads (.defaulted "pathParams" [] (.list .text))
      [("pathParams", .ofStrings h.pathParams)] h.pathParams :=
    .defaulted (Json.Decoder.list_text_ofStrings _)
  have query : Reads (.defaulted "queryParams" [] (.list .text))
      [("queryParams", .ofStrings h.queryParams)] h.queryParams :=
    .defaulted (Json.Decoder.list_text_ofStrings _)
  have body : Reads (.defaulted "sendBody" false .bool) [("sendBody", .bool h.sendBody)]
      h.sendBody := .defaulted rfl
  have headers : Reads (.defaulted "headers" [] (.table .text))
      [("headers", .object (h.headers.map fun e ↦ (e.1, .string e.2)))] h.headers :=
    .defaulted (Json.Decoder.table_text_ofValue distinct)
  have record := (((((method.map Handler.mk).field url (by decide)).field path (by decide)).field
    query (by decide)).field body (by decide)).field headers (by decide)
  refine record.decode ?_ "HandlerSpec"
  show ["method", "urlTemplate", "pathParams", "queryParams", "sendBody", "headers"].Nodup
  decide

theorem decode_steady : Json.Decoder.Steady Handler.decode :=
  have text := Json.Decoder.text_steady
  (((((((Json.Form.required_steady text).map Handler.mk).seq
    (Json.Form.required_steady text)).seq (Json.Form.defaulted_steady text.list)).seq
    (Json.Form.defaulted_steady text.list)).seq
    (Json.Form.defaulted_steady Json.Decoder.bool_steady)).seq
    (Json.Form.defaulted_steady text.table)).decode "HandlerSpec"

theorem plain_toJson {h : Handler} (distinct : h.headers.names.Nodup) : h.toJson.Plain :=
  have names : ["method", "urlTemplate", "pathParams", "queryParams", "sendBody",
      "headers"].Nodup := by decide
  ⟨names, trivial, trivial, Value.plain_ofStrings _, Value.plain_ofStrings _, trivial,
    Value.plain_table distinct, trivial⟩

theorem depth_toJson (h : Handler) : h.toJson.depth = 2 := by
  rw [toJson, Value.depth]
  simp only [Value.depthMembers, Value.depth_ofStrings, Value.depth_table]
  simp only [Value.depth]
  rfl

end Handler

/-! ### Artifacts -/

namespace Artifact

open Json.Form (Reads)

/-- The tables in an artifact, those of its schemas and that of its headers, hold each name once. -/
structure WellFormed (a : Artifact) : Prop where
  /-- The fields of the input have distinct names, at every level. -/
  input : a.inputSchema.WellFormed
  /-- The fields of the output have distinct names, at every level. -/
  output : a.outputSchema.WellFormed
  /-- The headers have distinct names. -/
  headers : a.handler.headers.names.Nodup

variable {a : Artifact}

/-- An artifact is read from its value. -/
theorem decode_toJson (h : a.WellFormed) : Artifact.decode (.ofValue a.toJson) = .ok a := by
  have name : Reads (.required "name" .text) [("name", .string a.name)] a.name := .required rfl
  have title : Reads (.required "title" .text) [("title", .string a.title)] a.title :=
    .required rfl
  have description : Reads (.required "description" .text)
      [("description", .string a.description)] a.description := .required rfl
  have input : Reads (.required "inputSchema" Schema.decode)
      [("inputSchema", a.inputSchema.toJson)] a.inputSchema :=
    .required (Schema.decode_toJson _ h.input)
  have output : Reads (.required "outputSchema" Schema.decode)
      [("outputSchema", a.outputSchema.toJson)] a.outputSchema :=
    .required (Schema.decode_toJson _ h.output)
  have handler : Reads (.required "handler" Handler.decode) [("handler", a.handler.toJson)]
      a.handler := .required (Handler.decode_toJson h.headers)
  have record := (((((name.map Artifact.mk).field title (by decide)).field description
    (by decide)).field input (by decide)).field output (by decide)).field handler (by decide)
  refine record.decode ?_ "ToolArtifact"
  show ["name", "title", "description", "inputSchema", "outputSchema", "handler"].Nodup
  decide

theorem decode_steady : Json.Decoder.Steady Artifact.decode :=
  have text := Json.Decoder.text_steady
  (((((((Json.Form.required_steady text).map Artifact.mk).seq
    (Json.Form.required_steady text)).seq (Json.Form.required_steady text)).seq
    (Json.Form.required_steady Schema.decode_steady)).seq
    (Json.Form.required_steady Schema.decode_steady)).seq
    (Json.Form.required_steady Handler.decode_steady)).decode "ToolArtifact"

theorem plain_toJson (h : a.WellFormed) : a.toJson.Plain :=
  have names : ["name", "title", "description", "inputSchema", "outputSchema",
      "handler"].Nodup := by decide
  ⟨names, trivial, trivial, trivial, Schema.plain_toJson _ h.input,
    Schema.plain_toJson _ h.output, Handler.plain_toJson h.headers, trivial⟩

/-- An artifact is one level deeper than its parts. -/
theorem depth_toJson_le {bound : Nat} (deep : 2 ≤ bound)
    (input : a.inputSchema.toJson.depth ≤ bound) (output : a.outputSchema.toJson.depth ≤ bound) :
    a.toJson.depth ≤ bound + 1 := by
  simp only [toJson, Value.depth, Value.depthMembers, Handler.depth_toJson]
  omega

/-- A well-formed artifact is read back from its text. -/
theorem parse_render_of_wellFormed (h : a.WellFormed) (deep : a.toJson.depth ≤ Json.maxDepth) :
    Artifact.parse a.render = .ok a :=
  Json.decode_ofText_pretty decode_steady (plain_toJson h) deep (decode_toJson h)

end Artifact

end Toolsmith
