import Toolsmith.Compile
import Toolsmith.Proofs.Artifact

/-!
# The schemas of compiled tools

A builder of object schemas keeps its field names distinct whatever is added to it, and the
schemas that requests are compiled to are built from scalars in at most two levels of objects. So
every compiled tool is one of those that are read back from their texts, however deep the examples
in its request are nested.

## Main definitions

* `Schema.Builder.Sound`: distinct field names and schemas of bounded depth.

## Main statements

* `Compile.wellFormed_artifact?`, `Compile.depth_artifact?_le`: what is compiled can be read back.
* `Artifact.parse_render`: artifacts are read back from their texts.
-/

namespace Toolsmith

namespace Schema.Builder

/-- The field names are distinct, and the schema of each field is well-formed and nested no deeper
than a bound. -/
structure Sound (bound : Nat) (b : Builder) : Prop where
  /-- The field names are distinct. -/
  distinct : b.fields.names.Nodup
  /-- The schemas of the fields are well-formed. -/
  wellFormed : ∀ f ∈ b.fields, f.2.schema.WellFormed
  /-- The schemas of the fields are not nested deeper than the bound. -/
  shallow : ∀ f ∈ b.fields, f.2.schema.toJson.depth ≤ bound

variable {bound : Nat} {b : Builder}

theorem sound_empty : ({} : Builder).Sound bound :=
  ⟨List.nodup_nil, fun _ h ↦ absurd h List.not_mem_nil, fun _ h ↦ absurd h List.not_mem_nil⟩

/-- Adding a field, new or in place of another one, keeps a builder sound. -/
theorem Sound.field (h : b.Sound bound) (name : String) {s : Schema} (required : Bool)
    (wellFormed : s.WellFormed) (shallow : s.toJson.depth ≤ bound) :
    (b.field name s required).Sound bound := by
  refine ⟨Table.nodup_names_insert h.distinct _ _, fun f hf ↦ ?_, fun f hf ↦ ?_⟩
  · rcases Table.mem_insert hf with rfl | hf
    · exact wellFormed
    · exact h.wellFormed f hf
  · rcases Table.mem_insert hf with rfl | hf
    · exact shallow
    · exact h.shallow f hf

/-- Adding a scalar keeps a builder sound. -/
theorem Sound.scalar (h : b.Sound bound) (name : String) (kind : ScalarKind)
    (description : Option String) (required : Bool) (deep : 1 ≤ bound) :
    (b.scalar name kind description required).Sound bound :=
  h.field name required trivial (by rw [depth_toJson_scalar]; exact deep)

/-- What a sound builder builds is well-formed. -/
theorem Sound.wellFormed_build (h : b.Sound bound) : b.build.WellFormed :=
  ⟨h.distinct, wellFormedFields_iff.2 h.wellFormed⟩

/-- What a sound builder builds is no deeper than its fields allow. -/
theorem Sound.depth_build_le (h : b.Sound bound) : b.build.toJson.depth ≤ bound + 2 :=
  depth_toJson_object_le h.distinct h.shallow

end Schema.Builder

namespace Compile

open Collection (Example Payload Request)
open Schema (Builder)

/-! ### Schemas like an example -/

/-- The builder of an example has fields of scalars only. -/
theorem sound_likeExample (members : Table Json.Value) :
    (members.foldl (fun b e ↦ b.scalar e.1 (.guess e.2) none true) ({} : Builder)).Sound 1 :=
  List.foldlRecOn members _ Builder.sound_empty fun _ h e _ ↦
    h.scalar e.1 _ none true (Nat.le_refl 1)

/-- The schema of an example is well-formed. -/
theorem wellFormed_likeExample (members : Table Json.Value) : (likeExample members).WellFormed :=
  (sound_likeExample members).wellFormed_build

/-- The schema of an example is shallow. -/
theorem depth_likeExample_le (members : Table Json.Value) :
    (likeExample members).toJson.depth ≤ 3 :=
  (sound_likeExample members).depth_build_le

/-! ### Input and output -/

/-- The schema of a body is well-formed, whatever the body is. -/
theorem wellFormed_bodySchema (raw : String) : (bodySchema raw).WellFormed := by
  rw [bodySchema]
  split
  · exact wellFormed_likeExample _
  · trivial

theorem depth_bodySchema_le (raw : String) : (bodySchema raw).toJson.depth ≤ 3 := by
  rw [bodySchema]
  split
  · exact depth_likeExample_le _
  · rw [Schema.depth_toJson_unconstrained]
    decide

/-- The schema of the output is well-formed. -/
theorem wellFormed_outputSchema (responses : List Example) :
    (outputSchema responses).WellFormed := by
  rw [outputSchema]
  split
  · exact wellFormed_likeExample _
  · trivial

theorem depth_outputSchema_le (responses : List Example) :
    (outputSchema responses).toJson.depth ≤ 3 := by
  rw [outputSchema]
  split
  · exact depth_likeExample_le _
  · rw [Schema.depth_toJson_unconstrained]
    decide

/-- The builder of an input schema with the fields of all variables. -/
def variableFields (p : Payload) : Builder :=
  p.address.query.foldl (addQueryField p.address.pathKeys)
    (p.address.pathVariables.foldl addPathField {})

/-- The schema of the input has the fields of the variables, and that of a raw body last. -/
theorem inputSchema_eq (p : Payload) :
    inputSchema p = match p.rawBody? with
      | some raw => ((variableFields p).field bodyField (bodySchema raw) false).build
      | none => (variableFields p).build :=
  rfl

/-- The fields of the variables are scalars. -/
theorem sound_variableFields (p : Payload) : (variableFields p).Sound 3 := by
  have path : (p.address.pathVariables.foldl addPathField {}).Sound 3 :=
    List.foldlRecOn p.address.pathVariables _ Builder.sound_empty fun _ h v _ ↦
      h.scalar _ _ _ true (by decide)
  refine List.foldlRecOn p.address.query _ path fun b h v _ ↦ ?_
  rw [addQueryField]
  split
  · exact h
  · exact h.scalar _ _ _ false (by decide)

/-- The schema of the input is well-formed. -/
theorem wellFormed_inputSchema (p : Payload) : (inputSchema p).WellFormed := by
  have sound := sound_variableFields p
  rw [inputSchema_eq]
  split
  next raw _ =>
    exact (sound.field bodyField false (wellFormed_bodySchema raw)
      (depth_bodySchema_le raw)).wellFormed_build
  next => exact sound.wellFormed_build

/-- The schema of the input is shallow. -/
theorem depth_inputSchema_le (p : Payload) : (inputSchema p).toJson.depth ≤ 5 := by
  have sound := sound_variableFields p
  rw [inputSchema_eq]
  split
  next raw _ =>
    exact (sound.field bodyField false (wellFormed_bodySchema raw)
      (depth_bodySchema_le raw)).depth_build_le
  next => exact sound.depth_build_le

/-! ### Compiled tools -/

variable {r : Request} {n : Naming} {a : Artifact}

/-- A tool was made of a request with a payload, and of its names. -/
theorem artifact?_eq_some (h : artifact? r n = some a) :
    ∃ p, r.payload = some p ∧ a =
      { name := n.identifier, title := n.title, description := n.description,
        inputSchema := inputSchema p, outputSchema := outputSchema r.responses,
        handler := handler r p } := by
  obtain ⟨p, hp, rfl⟩ := Option.map_eq_some_iff.1 h
  exact ⟨p, hp, rfl⟩

/-- The tables of a compiled tool hold each name once. -/
theorem wellFormed_artifact? (h : artifact? r n = some a) : a.WellFormed := by
  obtain ⟨p, -, rfl⟩ := artifact?_eq_some h
  exact ⟨wellFormed_inputSchema p, wellFormed_outputSchema _, List.nodup_singleton _⟩

/-- A compiled tool is nested in six levels at most. -/
theorem depth_artifact?_le (h : artifact? r n = some a) : a.toJson.depth ≤ 6 := by
  obtain ⟨p, -, rfl⟩ := artifact?_eq_some h
  exact Artifact.depth_toJson_le (by decide) (depth_inputSchema_le p)
    (Nat.le_trans (depth_outputSchema_le _) (by decide))

end Compile

/-! ### Texts of artifacts -/

namespace Artifact

open Collection (Request)

/-- An artifact is read back from its text, with all its fields, parameters and headers in order,
as long as it is not nested deeper than the reader goes; and so is every compiled one. -/
theorem parse_render :
    (∀ a : Artifact, a.WellFormed → a.toJson.depth ≤ Json.maxDepth → parse a.render = .ok a) ∧
      ∀ (r : Request) (n : Naming) (a : Artifact), Compile.artifact? r n = some a →
        parse a.render = .ok a := by
  refine ⟨fun a ↦ parse_render_of_wellFormed, fun r n a h ↦ ?_⟩
  have shallow : a.toJson.depth ≤ Json.maxDepth :=
    Nat.le_trans (Compile.depth_artifact?_le h) (by decide)
  exact parse_render_of_wellFormed (Compile.wellFormed_artifact? h) shallow

/-- A tool whose names and texts have a meaning in JSON or in JSON Schema. -/
def oddlyNamed : Artifact where
  name := "\"\x7b\\\n"
  title := ""
  description := "\t\u0000\u007f\u2028\\u0041"
  inputSchema := .object
    [("type", ⟨.object [("required", ⟨.scalar .number none, true⟩),
        ("properties", ⟨.unconstrained none, false⟩)] (some "\r"), true⟩),
      ("", ⟨.scalar .boolean (some ""), false⟩), ("\"", ⟨.object [] none, true⟩)] none
  outputSchema := .unconstrained (some "description")
  handler := { method := "GET", urlTemplate := "\x7b\"\x7d", pathParams := ["type", "type", "\\"] }

/-- The tool with odd names is read back, and so is the tool of a request that declares nothing. -/
theorem parse_render_oddlyNamed :
    parse oddlyNamed.render = .ok oddlyNamed ∧
      ∃ a, Compile.artifact? { payload := some {} } ⟨"a", "\n", "\""⟩ = some a ∧
        parse a.render = .ok a := by
  have wellFormed : oddlyNamed.WellFormed := by
    refine ⟨⟨by decide, ?_⟩, trivial, List.nodup_nil⟩
    simp [Schema.wellFormedFields_iff, Schema.WellFormed, Table.names]
  have shallow : oddlyNamed.toJson.depth ≤ Json.maxDepth := by decide
  exact ⟨parse_render.1 oddlyNamed wellFormed shallow,
    _, rfl, parse_render.2 { payload := some {} } ⟨"a", "\n", "\""⟩ _ rfl⟩

end Artifact

end Toolsmith
