import Toolsmith.Generation.Manifest
import Toolsmith.Proofs.Files.Basic
import Toolsmith.Proofs.Json.Record
import Toolsmith.Proofs.Json.RoundTrip

/-!
# Manifests read back from their texts

The manifest of a generated server holds names that may be any texts. All of them, and the mode,
are found again when the manifest is read.

## Main statements

* `Generation.Manifest.parse_rendered`: a manifest is read back from its text.
-/

namespace Toolsmith

open Json (Value)

theorem Server.Mode.decode_name (mode : Server.Mode) :
    Server.Mode.decode (.ofValue (.string mode.name)) = .ok mode := by
  cases mode <;> rfl

namespace Generation.Manifest

open Json.Form (Reads)

theorem decode_toJson (m : Manifest) : Manifest.decode (.ofValue m.toJson) = .ok m := by
  have name : Reads (.required "name" .text) [("name", .string m.name)] m.name := .required rfl
  have version : Reads (.required "version" .text) [("version", .string m.version)] m.version :=
    .required rfl
  have mode : Reads (.required "mode" Server.Mode.decode) [("mode", .string m.mode.name)] m.mode :=
    .required m.mode.decode_name
  have toolsDir : Reads (.required "toolsDir" .text) [("toolsDir", .string m.toolsDir)]
      m.toolsDir := .required rfl
  have tools : Reads (.defaulted "tools" [] (.list .text)) [("tools", .ofStrings m.tools)]
      m.tools := .defaulted (Json.Decoder.list_text_ofStrings _)
  have record := ((((name.map Manifest.mk).field version (by decide)).field mode
    (by decide)).field toolsDir (by decide)).field tools (by decide)
  refine record.decode ?_ "ServerManifest"
  show ["name", "version", "mode", "toolsDir", "tools"].Nodup
  decide

theorem decode_steady : Json.Decoder.Steady Manifest.decode :=
  have text := Json.Decoder.text_steady
  ((((((Json.Form.required_steady text).map Manifest.mk).seq
    (Json.Form.required_steady text)).seq
    (Json.Form.required_steady (Json.named_steady _))).seq
    (Json.Form.required_steady text)).seq
    (Json.Form.defaulted_steady text.list)).decode "ServerManifest"

theorem plain_toJson (m : Manifest) : m.toJson.Plain :=
  have names : ["name", "version", "mode", "toolsDir", "tools"].Nodup := by decide
  ⟨names, trivial, trivial, trivial, trivial, Value.plain_ofStrings _, trivial⟩

theorem depth_toJson (m : Manifest) : m.toJson.depth = 2 := by
  rw [toJson, Value.depth]
  simp only [Value.depthMembers, Value.depth_ofStrings]
  simp only [Value.depth]
  rfl

/-- A manifest is read back from its text. -/
theorem parse_rendered (m : Manifest) : Manifest.parse m.render = .ok m := by
  have shallow : m.toJson.depth ≤ Json.maxDepth := by
    rw [depth_toJson]
    decide
  exact Json.decode_ofText_pretty decode_steady (plain_toJson m) shallow (decode_toJson m)

/-- A manifest that stands in the directory of a server is loaded. -/
theorem load_eq_ok {files : Files} {directory : Path} {m : Manifest} {x : Bool}
    (leads : files.Leads (directory.child fileName))
    (there : files.get? (files.locate (directory.child fileName)) =
      some (.file (.text m.render) x)) : load files directory = .ok m := by
  rw [load, Files.read_of_get? leads there]
  simp only [Except.mapError, parse_rendered, bind, Except.bind]

end Generation.Manifest

end Toolsmith
