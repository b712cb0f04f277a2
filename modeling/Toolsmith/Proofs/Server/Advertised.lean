import Toolsmith.Proofs.Compile.Schemas
import Toolsmith.Proofs.Schema.Validation
import Toolsmith.Proofs.Tool.Call
import Toolsmith.Server.Basic

/-!
# What a client is told of a tool

The definition of a tool holds the JSON Schemas of its input and output, and a client takes them by
their word. On the side of the input, whatever the JSON Schema admits is taken: the tool is more
lenient, by the nulls in place of optional fields, and never stricter. On the side of the output,
the schema of a compiled tool asks for all of its fields, so that there is nothing to be lenient
about, and a result that is no error is what the JSON Schema says. A tool whose definition has no
JSON Schema of the output takes any answer.

## Main definitions

* `Server.Reaches`: the parameters of a tool call name a tool and hold its input.

## Main statements

* `Schema.validate_published`: what a schema accepts is what its JSON Schema says.
* `Server.callTool_conforms`: the results of a compiled tool are what its definition says.
-/

namespace Toolsmith

open Json (Value)

/-! ### The input -/

namespace Schema

/-- Null in place of the input is admitted only where the object that it stands for is, too. -/
theorem admits_normalInput {s : Schema} (h : s.WellFormed) {input : Value}
    (admitted : s.toJson.admits input = true) :
    s.toJson.admits (Artifact.normalInput input) = true := by
  cases input with
  | null =>
    cases s with
    | unconstrained d => exact admits_toJson_unconstrained d _
    | scalar k d => cases k <;> cases admits_toJson_scalar.1 admitted
    | object fields d =>
      obtain ⟨_, object, -⟩ := (admits_toJson_object h.1).1 admitted
      cases object
  | bool | number | string | array | object => exact admitted

/-- A schema accepts a value exactly if its JSON Schema admits what is left of the value without the
members that are null in place of an optional field. A tool never turns an input away that the JSON
Schema in its definition admits. -/
theorem validate_published :
    (∀ (s : Schema) (v : Value), s.WellFormed → v.WellFormed →
      (s.validate v = .ok () ↔ s.toJson.admits (s.prune v) = true)) ∧
    ∀ {σ : Type} (c : Tool.Attempt σ), c.artifact.inputSchema.WellFormed →
      (Server.Definition.ofArtifact c.artifact).inputSchema.admits c.input = true →
      ∀ violation, c.outcome.1 ≠ .error (.invalidArguments violation) := by
  refine ⟨fun s v hs hv ↦ validateAt_eq_ok_iff hs hv [], fun c hs admitted violation rejected ↦ ?_⟩
  have valid : c.artifact.inputSchema.validate c.argument = .ok () :=
    validateAt_of_admits hs (admits_normalInput hs admitted) []
  cases valid.symm.trans (c.outcome_eq_invalidArguments_iff.1 rejected)

/-- A pet with an optional tag, which has an optional color. -/
def pet : Schema :=
  .object
    [("id", ⟨.scalar .number none, true⟩),
      ("tag", ⟨.object [("color", ⟨.scalar .string none, false⟩)] none, false⟩)] none

/-- Null in place of the color is nothing amiss at any level, and null in place of the number is; a
lookup of a user takes every input with a text in place of the number. -/
theorem validate_published_pet :
    pet.validate (.object [("id", .number (.integer 1)), ("tag", .object [("color", .null)])]) =
        .ok () ∧
      pet.validate (.object [("id", .null), ("tag", .null)]) ≠ .ok () ∧
      ∀ violation, (Tool.Attempt.lookup "").outcome.1 ≠ .error (.invalidArguments violation) := by
  have pets : pet.WellFormed := by
    simp [pet, WellFormed, wellFormedFields_iff, Table.names]
  have red : (Value.object [("id", .number (.integer 1)),
      ("tag", .object [("color", .null)])]).WellFormed := by
    simp [Value.WellFormed, Value.wellFormedMembers_iff, Table.names]
  have nameless : (Value.object [("id", .null), ("tag", .null)]).WellFormed := by
    simp [Value.WellFormed, Value.wellFormedMembers_iff, Table.names]
  have users : (Tool.Attempt.lookup "").artifact.inputSchema.WellFormed := by
    simp [Tool.Attempt.lookup, WellFormed, wellFormedFields_iff, Table.names]
  refine ⟨(validate_published.1 pet _ pets red).2 (by decide +kernel), fun valid ↦ ?_,
    validate_published.2 _ users (by decide +kernel)⟩
  have admitted := (validate_published.1 pet _ pets nameless).1 valid
  revert admitted
  decide +kernel

end Schema

/-! ### The output -/

namespace Schema

/-- Whether an object schema asks for all of its fields, which are scalars. -/
def AsksForScalars (fields : Table (Field Schema)) : Prop :=
  ∀ f ∈ fields, f.2.required = true ∧ ∃ k d, f.2.schema = .scalar k d

/-- Where no field is optional, nothing is left out. -/
theorem prune_eq_self {fields : Table (Field Schema)} (h : AsksForScalars fields)
    (d : Option String) (v : Value) : (Schema.object fields d).prune v = v := by
  have members (ms : Table Value) : pruneMembers fields ms = ms := by
    induction ms with
    | nil => rfl
    | cons m ms ih =>
      obtain ⟨name, w⟩ := m
      rw [pruneMembers, ih]
      cases found : fields.get? name with
      | none => rfl
      | some f =>
        have asked : f.required = true ∧ ∃ k d, f.schema = .scalar k d :=
          h _ (Table.mem_of_get? found)
        obtain ⟨required, k, d, scalar⟩ := asked
        simp only [required, scalar, prune_scalar, Bool.true_eq_false, and_false, if_false]
  cases v with
  | object ms => rw [prune_object, members]
  | null | bool | number | string | array => rfl

end Schema

namespace Compile

open Collection (Example)
open Schema (Builder)

/-- A schema like an example asks for all of its fields, which are scalars. -/
theorem exists_likeExample_eq (members : Table Value) :
    ∃ fields, likeExample members = .object fields none ∧ Schema.AsksForScalars fields := by
  let Asks (b : Builder) : Prop := b.description = none ∧ Schema.AsksForScalars b.fields
  have built : Asks (members.foldl (fun b e ↦ b.scalar e.1 (.guess e.2) none true) {}) := by
    refine List.foldlRecOn (motive := Asks) members _
      ⟨rfl, fun _ h ↦ absurd h List.not_mem_nil⟩ fun b h e _ ↦ ⟨h.1, fun f hf ↦ ?_⟩
    rcases Table.mem_insert hf with rfl | hf
    · exact ⟨rfl, _, _, rfl⟩
    · exact h.2 f hf
  exact ⟨_, by rw [likeExample, Builder.build, built.1], built.2⟩

/-- An output schema asks for scalars or for nothing. -/
theorem outputSchema_cases (responses : List Example) :
    (∃ fields, outputSchema responses = .object fields none ∧ Schema.AsksForScalars fields) ∨
      outputSchema responses = .unconstrained (some outputDescription) := by
  rw [outputSchema]
  split
  · exact .inl (exists_likeExample_eq _)
  · exact .inr rfl

end Compile

namespace Server

variable {σ : Type}

/-- Whether the parameters of a tool call name a tool of the server and hold an input. -/
def Reaches (s : Server σ) (params : Value) (t : Tool σ) (input : Value) : Prop :=
  ∃ arguments, Arguments.decode (.ofValue params) = .ok arguments ∧
    s.tools.get? arguments.name = some t ∧ arguments.arguments = input

/-- A tool call that reaches a tool is answered by its result. -/
theorem callTool_of_reaches {s : Server σ} {params input : Value} {t : Tool σ}
    (h : s.Reaches params t input) (id : RequestId) (state : σ) :
    (s.callTool id (some params) state).1 = .success id (runTool t input state).1.toJson := by
  obtain ⟨arguments, decoded, found, rfl⟩ := h
  rw [callTool]
  simp only [decoded, found]

theorem Definition.outputSchema_ofArtifact_of_object {a : Artifact}
    {fields : Table (Field Schema)} {d : Option String} (h : a.outputSchema = .object fields d) :
    (ofArtifact a).outputSchema = some a.outputSchema.toJson := by
  simp only [ofArtifact, h, Schema.fields?, Option.isSome_some, if_true]

theorem Definition.outputSchema_ofArtifact_of_unconstrained {a : Artifact} {d : Option String}
    (h : a.outputSchema = .unconstrained d) : (ofArtifact a).outputSchema = none := by
  simp only [ofArtifact, h, Schema.fields?, Option.isSome_none, Bool.false_eq_true, if_false]

/-- The tool that is called, as a server has it. -/
def served (c : Toolsmith.Tool.Attempt σ) : Tool σ :=
  .ofArtifactVia c.upstream c.environment c.artifact

variable {c : Toolsmith.Tool.Attempt σ}

/-- A tool with an output schema that asks for scalars succeeds by the objects that its definition
describes. -/
theorem structured_of_asksForScalars {fields : Table (Field Schema)} {d : Option String}
    (h : c.artifact.outputSchema = .object fields d) (distinct : fields.names.Nodup)
    (asks : Schema.AsksForScalars fields) (fine : c.result.isError = false) :
    ∃ v, c.result.structured = some v ∧ c.result.toJson.get? "structuredContent" = some v ∧
      c.artifact.outputSchema.toJson.admits v = true := by
  obtain ⟨v, succeeds⟩ := c.isError_eq_false_iff.1 fine
  obtain ⟨_, _, body, -, -, -, -, parsed, valid⟩ := id succeeds
  rw [h] at valid ⊢
  have wellFormed : (Schema.object fields d).WellFormed := by
    refine ⟨distinct, Schema.wellFormedFields_iff.2 fun f hf ↦ ?_⟩
    obtain ⟨-, k, e, scalar⟩ := asks f hf
    rw [scalar]
    trivial
  have admitted := (Schema.validateAt_eq_ok_iff wellFormed (Json.wellFormed_of_parse parsed)
    []).1 valid
  rw [Schema.prune_eq_self asks] at admitted
  obtain ⟨members, rfl, -⟩ := Schema.validateAt_object_eq_ok_iff.1 valid
  rw [c.result_of_succeeds succeeds]
  exact ⟨.object members, rfl, rfl, admitted⟩

/-- A client of a compiled tool may rely on its definition, and gets the result of the call that it
asks for. If the definition holds a JSON Schema of the output, a result that is no error has a
structure, which the JSON Schema admits; if it holds none, the tool takes every answer that comes
with success and is JSON. -/
theorem callTool_conforms {r : Collection.Request} {n : Naming} (c : Toolsmith.Tool.Attempt σ)
    (compiled : Compile.artifact? r n = some c.artifact) :
    (∀ (s : Server σ) (id : RequestId) (params : Value), s.Reaches params (served c) c.input →
      (s.callTool id (some params) c.state).1 = .success id c.result.toJson) ∧
    (∀ published, (served c).definition.outputSchema = some published →
      c.result.isError = false →
      ∃ v, c.result.structured = some v ∧ c.result.toJson.get? "structuredContent" = some v ∧
        published.admits v = true) ∧
    ((served c).definition.outputSchema = none →
      c.artifact.outputSchema.isUnconstrained = true ∧
      ∀ request answer body v, c.sent = [request] →
        (c.upstream request c.state).1 = .ok answer → Http.isSuccess answer.status = true →
        answer.body = .ok body → Json.parse body = .ok v → c.result.isError = false) := by
  have definition : (served c).definition = .ofArtifact c.artifact := rfl
  have wellFormed := (Compile.wellFormed_artifact? compiled).output
  have shape := Compile.outputSchema_cases r.responses
  obtain ⟨_, -, made⟩ := Compile.artifact?_eq_some compiled
  rw [← show c.artifact.outputSchema = Compile.outputSchema r.responses by rw [made]] at shape
  rw [definition]
  refine ⟨fun s id params reached ↦ callTool_of_reaches reached id c.state, ?_⟩
  rcases shape with ⟨fields, object, asks⟩ | unconstrained
  · rw [Definition.outputSchema_ofArtifact_of_object object]
    refine ⟨?_, fun untold ↦ (nomatch untold)⟩
    rintro _ ⟨⟩ fine
    rw [object] at wellFormed
    exact structured_of_asksForScalars object wellFormed.1 asks fine
  · rw [Definition.outputSchema_ofArtifact_of_unconstrained unconstrained, unconstrained]
    refine ⟨fun _ told ↦ (nomatch told), fun _ ↦ ⟨rfl, ?_⟩⟩
    -- whatever is read is valid, so the call succeeds by it
    intro request answer body v one replied success read parsed
    have valid : c.artifact.outputSchema.validate v = .ok () := by
      rw [unconstrained]
      rfl
    exact c.isError_eq_false_iff.2
      ⟨v, request, answer, body, one, replied, success, read, parsed, valid⟩

/-- The text of a user. -/
def userText (name : String) : String :=
  "\x7b\"name\":\"" ++ name ++ "\"\x7d"

/-- The lookup of a user under a fixed URL, with saved responses. -/
def saved (texts : List String) : Collection.Request :=
  { payload := some { address := { raw := "http://host/user" } }
    responses := texts.map fun text ↦ { body := some text } }

/-- A call of the tool of such a request, answered by some text. -/
def savedLookup (texts : List String) (body : String) : Toolsmith.Tool.Attempt Unit where
  artifact :=
    { name := "getUser", title := "", description := ""
      inputSchema := Compile.inputSchema { address := { raw := "http://host/user" } }
      outputSchema := Compile.outputSchema (saved texts).responses
      handler := Compile.handler (saved texts) { address := { raw := "http://host/user" } } }
  environment := []
  input := .null
  upstream := fun _ state ↦ (.ok { status := 200, body := .ok body }, state)
  state := ()

/-- A user that is like the saved one is told as the definition says; where no response is saved, an
answer that is no object is taken, too. -/
theorem callTool_conforms_savedLookup :
    (∃ published v,
        (served (savedLookup [userText "Ada"] (userText "Eve"))).definition.outputSchema =
          some published ∧
        (savedLookup [userText "Ada"] (userText "Eve")).result.structured = some v ∧
        published.admits v = true) ∧
      (savedLookup [] "[]").result.isError = false := by
  constructor
  · obtain ⟨-, conforms, -⟩ := callTool_conforms (r := saved [userText "Ada"])
      (n := ⟨"getUser", "", ""⟩) (savedLookup [userText "Ada"] (userText "Eve")) rfl
    obtain ⟨published, told⟩ : ∃ published, (served (savedLookup [userText "Ada"]
        (userText "Eve"))).definition.outputSchema = some published :=
      Option.isSome_iff_exists.1 (by decide +kernel)
    obtain ⟨v, structured, -, admitted⟩ := conforms published told (by decide +kernel)
    exact ⟨published, v, told, structured, admitted⟩
  · obtain ⟨-, -, takes⟩ := callTool_conforms (r := saved []) (n := ⟨"getUser", "", ""⟩)
      (savedLookup [] "[]") rfl
    have one : (savedLookup [] "[]").sent.length = 1 := by decide +kernel
    obtain ⟨request, sent⟩ := List.length_eq_one_iff.1 one
    have parsed : Json.parse "[]" = .ok (.array []) := by
      have text : (Json.Value.array []).compact = "[]" := by decide +kernel
      rw [← text]
      exact Json.parse_compact True.intro (by decide)
    exact (takes rfl).2 request _ _ _ sent rfl (by decide) rfl parsed

end Server

end Toolsmith
