import Toolsmith.Proofs.Compile.Fields
import Toolsmith.Proofs.Schema.Validation

/-!
# Input schemas and handlers agree

The fields of a compiled input schema and the parameters of its handler come from the same
variables by two separate passes. The fields are put into one table, where a later field takes the
place of an earlier one of the same name: a query parameter gives way to a path variable, but the
field of a raw body gives way to nothing, and whatever was called `body` before it is lost.

## Main definitions

* `Schema.IsScalarField`: a field that is a scalar, required or not.
* `Schema.Demands`: a field that no valid input goes without.

## Main statements

* `Compile.artifact?_contract`: the fields of a compiled tool and the parameters of its handler.
* `Compile.artifact?_contract_fails`: a parameter named like the body loses its field.
-/

namespace Toolsmith

open Json (Value)

/-! ### Fields and the inputs without them -/

namespace Schema

/-- Whether an entry of a table of fields is a scalar, and required or not. -/
def IsScalarField (required : Bool) (f : Option (Field Schema)) : Prop :=
  ∃ kind d, f = some ⟨.scalar kind d, required⟩

/-- Whether a name is a required scalar field of a schema, so that no value without a member of
that name is valid. -/
def Demands (s : Schema) (name : String) : Prop :=
  IsScalarField true (s.field? name) ∧
    ∀ v : Value, v.get? name = none → ∃ e, s.validate v = .error e

/-- The members of a valid object hold a valid value for each required field. -/
theorem exists_validateAt_of_validateFields {fields : List (String × Field Schema)}
    {name : String} {s : Schema} (hf : Table.get? fields name = some ⟨s, true⟩)
    {members : Table Value} {path : List String}
    (valid : validateFields fields path members = .ok ()) :
    ∃ v, members.get? name = some v ∧ s.validateAt (path ++ [name]) v = .ok () := by
  have allowed : Allows ⟨s, true⟩ (path ++ [name]) (members.get? name) :=
    validateFields_eq_ok_iff.1 valid _ (Table.mem_of_get? hf)
  cases hm : members.get? name with
  | none =>
    rw [hm] at allowed
    cases allowed
  | some v =>
    rw [hm] at allowed
    exact ⟨v, rfl, allowed.resolve_left fun idle ↦ nomatch idle.2⟩

/-- Members that lack a required field are no valid ones. -/
theorem validateFields_eq_error {fields : List (String × Field Schema)} {name : String}
    {s : Schema} (hf : Table.get? fields name = some ⟨s, true⟩) {members : Table Value}
    (hm : members.get? name = none) (path : List String) :
    ∃ e, validateFields fields path members = .error e := by
  cases valid : validateFields fields path members with
  | error e => exact ⟨e, rfl⟩
  | ok =>
    obtain ⟨v, hv, -⟩ := exists_validateAt_of_validateFields hf valid
    cases hm.symm.trans hv

/-- A required scalar field is demanded of every input. -/
theorem demands_of_isScalarField {s : Schema} {name : String}
    (h : IsScalarField true (s.field? name)) : s.Demands name := by
  refine ⟨h, fun v hv ↦ ?_⟩
  obtain ⟨kind, d, hf⟩ := h
  cases s with
  | scalar | unconstrained => cases hf
  | object fields d' =>
    cases v with
    | object members => exact validateFields_eq_error hf hv []
    | null | bool | number | string | array => exact ⟨_, rfl⟩

end Schema

namespace Compile

open Collection (Payload Request)
open Schema (Builder IsScalarField)

/-! ### Fields of variables -/

section Variables

variable (p : Payload)

/-- The variables that are fields are those of the path and those of the query. -/
theorem mem_names_variableFields (name : String) :
    name ∈ (variableFields p).fields.names ↔
      name ∈ p.address.pathKeys ∨ name ∈ p.address.queryKeys := by
  rw [names_variableFields, List.mem_append, List.mem_eraseDups, List.mem_eraseDups,
    List.mem_filter, decide_eq_true_eq]
  tauto

/-- A path variable is a required scalar. -/
theorem isScalarField_path {name : String} (h : name ∈ p.address.pathKeys) :
    IsScalarField true ((variableFields p).fields.get? name) := by
  obtain ⟨v, last⟩ := exists_lastOf? h
  rw [get?_variableFields, last]
  exact ⟨_, _, rfl⟩

/-- A query parameter is an optional scalar, unless a path variable has its key. -/
theorem isScalarField_query {name : String} (h : name ∈ p.address.queryKeys)
    (new : name ∉ p.address.pathKeys) :
    IsScalarField false ((variableFields p).fields.get? name) := by
  obtain ⟨v, last⟩ := exists_lastOf? h
  rw [get?_variableFields, lastOf?_eq_none_iff.2 new, last]
  exact ⟨_, _, rfl⟩

theorem description_variableFields : (variableFields p).description = none := by
  rw [variableFields_eq]

end Variables

/-! ### Fields of the input -/

section Input

variable (p : Payload)

/-- The fields of an input schema: those of the variables, and that of a raw body put in last. -/
def inputFields : Table (Field Schema) :=
  match p.rawBody? with
  | some raw => (variableFields p).fields.insert bodyField ⟨bodySchema raw, false⟩
  | none => (variableFields p).fields

theorem inputSchema_eq_object : inputSchema p = .object (inputFields p) none := by
  rw [inputSchema_eq, inputFields]
  cases p.rawBody? <;>
    simp only [Builder.build, Builder.field, description_variableFields]

theorem nodup_inputFields : (inputFields p).names.Nodup := by
  have distinct := (sound_variableFields p).distinct
  rw [inputFields]
  split
  · exact Table.nodup_names_insert distinct _ _
  · exact distinct

/-- The fields of the input are the variables, and the body if it is raw. -/
theorem mem_names_inputFields (name : String) :
    name ∈ (inputFields p).names ↔ name ∈ p.address.pathKeys ∨ name ∈ p.address.queryKeys ∨
      p.rawBody?.isSome = true ∧ name = bodyField := by
  rw [inputFields, ← or_assoc, ← mem_names_variableFields]
  split
  next raw hr =>
    rw [hr, Table.mem_names_insert, or_comm]
    simp
  next hr =>
    rw [hr]
    simp

/-- A name that is not that of a body that is sent keeps its field. -/
theorem get?_inputFields {name : String} (h : ¬ (p.rawBody?.isSome = true ∧ name = bodyField)) :
    (inputFields p).get? name = (variableFields p).fields.get? name := by
  rw [inputFields]
  split
  next raw hr =>
    rw [Table.get?_insert, if_neg]
    exact fun he ↦ h ⟨by rw [hr]; rfl, he.symm⟩
  next => rfl

/-- The field of a body that is sent, whatever else has its name. -/
theorem get?_inputFields_bodyField (h : p.rawBody?.isSome = true) :
    ∃ raw, (inputFields p).get? bodyField = some ⟨bodySchema raw, false⟩ := by
  obtain ⟨raw, hr⟩ := Option.isSome_iff_exists.1 h
  refine ⟨raw, ?_⟩
  rw [inputFields, hr]
  exact (Table.get?_insert _ _ _ _).trans (if_pos rfl)

/-- The field of a body is no scalar. -/
theorem not_isScalarField_bodySchema (raw : String) (required : Bool) :
    ¬ IsScalarField required (some ⟨bodySchema raw, false⟩) := by
  rintro ⟨kind, d, h⟩
  have scalar : bodySchema raw = .scalar kind d :=
    congrArg Field.schema (Option.some.inj h)
  rw [bodySchema] at scalar
  split at scalar <;> cases scalar

end Input

/-! ### The contract -/

/-- The fields of a compiled tool are the path parameters, the query parameters, and the body where
one is sent, which is optional. Every path parameter is demanded, and every other query parameter is
an optional scalar, unless it is called like the body and a body is sent: then, and only then, the
field is that of the body. -/
theorem artifact?_contract {r : Request} {p : Payload} (hr : r.payload = some p) (n : Naming) :
    ∃ (a : Artifact) (fields : Table (Field Schema)),
      artifact? r n = some a ∧ a.inputSchema = .object fields none ∧
      fields.names.Nodup ∧
      (∀ name, name ∈ fields.names ↔ name ∈ a.handler.pathParams ∨ name ∈ a.handler.queryParams ∨
        a.handler.sendBody = true ∧ name = bodyField) ∧
      (a.handler.sendBody = true → ∃ s, fields.get? bodyField = some ⟨s, false⟩) ∧
      (∀ name ∈ a.handler.pathParams,
        a.inputSchema.Demands name ↔ ¬ (a.handler.sendBody = true ∧ name = bodyField)) ∧
      ∀ name ∈ a.handler.queryParams, name ∉ a.handler.pathParams →
        (IsScalarField false (a.inputSchema.field? name) ↔
          ¬ (a.handler.sendBody = true ∧ name = bodyField)) := by
  -- a field that is a scalar is not that of the body
  have lost {name : String} {required : Bool}
      (h : IsScalarField required ((inputFields p).get? name)) :
      ¬ (p.rawBody?.isSome = true ∧ name = bodyField) := by
    rintro ⟨sent, rfl⟩
    obtain ⟨raw, hb⟩ := get?_inputFields_bodyField p sent
    exact not_isScalarField_bodySchema raw required (hb ▸ h)
  refine ⟨_, inputFields p, by rw [artifact?, hr]; rfl, inputSchema_eq_object p,
    nodup_inputFields p, mem_names_inputFields p, fun sent ↦ ?_, fun name h ↦ ?_,
    fun name h new ↦ ?_⟩
  · obtain ⟨raw, hb⟩ := get?_inputFields_bodyField p sent
    exact ⟨bodySchema raw, hb⟩
  · show (inputSchema p).Demands name ↔ _
    rw [inputSchema_eq_object]
    refine ⟨fun demanded ↦ lost demanded.1, fun other ↦ Schema.demands_of_isScalarField ?_⟩
    show IsScalarField true ((inputFields p).get? name)
    rw [get?_inputFields p other]
    exact isScalarField_path p h
  · show IsScalarField false ((inputSchema p).field? name) ↔ _
    rw [inputSchema_eq_object]
    refine ⟨lost, fun other ↦ ?_⟩
    show IsScalarField false ((inputFields p).get? name)
    rw [get?_inputFields p other]
    exact isScalarField_query p h new

/-- A request with a raw body and variables of given keys. -/
def keyed (pathKeys queryKeys : List String) : Request :=
  { payload := some
      { address :=
          { pathVariables := pathKeys.map fun k ↦ { key := some k }
            query := queryKeys.map fun k ↦ { key := some k } }
        body := some { raw := some "[]" } } }

/-- Two path variables and a query parameter of one key make one demanded field. -/
theorem artifact?_contract_keyed :
    ∃ a, artifact? (keyed ["id", "id"] ["id", "page"]) ⟨"a", "", ""⟩ = some a ∧
      a.inputSchema.Demands "id" ∧ IsScalarField false (a.inputSchema.field? "page") := by
  obtain ⟨a, fields, ha, -, -, -, -, path, query⟩ :=
    artifact?_contract (r := keyed ["id", "id"] ["id", "page"]) rfl ⟨"a", "", ""⟩
  cases ha
  exact ⟨_, rfl, (path "id" (by decide)).2 (by decide),
    (query "page" (by decide) (by decide)).2 (by decide)⟩

/-- With a body sent, a query parameter called like it is no scalar, and an input may go without
the path parameter called like it. -/
theorem artifact?_contract_fails :
    (∃ a, artifact? (keyed [] ["body"]) ⟨"a", "", ""⟩ = some a ∧
        "body" ∈ a.handler.queryParams ∧ "body" ∉ a.handler.pathParams ∧
        ¬ IsScalarField false (a.inputSchema.field? "body")) ∧
      ∃ a, artifact? (keyed ["body"] []) ⟨"a", "", ""⟩ = some a ∧
        "body" ∈ a.handler.pathParams ∧ a.inputSchema.validate (.object []) = .ok () := by
  refine ⟨⟨_, rfl, by decide, by decide, ?_⟩, _, rfl, by decide, rfl⟩
  exact not_isScalarField_bodySchema "[]" false

end Compile

end Toolsmith
