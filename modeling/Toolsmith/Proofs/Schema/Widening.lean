import Toolsmith.Proofs.Schema.Validation

/-!
# Reading never narrows a JSON Schema

Any JSON value can be read as a schema, also one that was edited by hand. What is not recognised
becomes unconstrained, at every level. So a value that satisfies the JSON Schema is always valid for
the schema that is read from it, while a value that does not may be valid as well.

To satisfy a JSON Schema is taken here in the widest sense: a keyword whose argument is none that
JSON Schema provides for asserts nothing, and neither does a value that is no JSON Schema at all.
Whoever rejects such a JSON Schema admits fewer values.

## Main definitions

* `Json.Value.Satisfies`: what the keywords of a JSON Schema assert of a value.

## Main statements

* `Json.Value.satisfies_of_admits`: the admitted values satisfy the JSON Schema.
* `Schema.ofJson_widens`: the values that satisfy a JSON Schema are valid for what is read from it.
-/

namespace Toolsmith

open Json (Value)

namespace Json.Value

/-! ### What a JSON Schema asserts -/

/-- The names that JSON Schema has for types. -/
def typeNames : List String :=
  ["null", "boolean", "number", "integer", "string", "array", "object"]

/-- Whether a value satisfies a JSON Schema, as far as `type`, `properties` and `required` assert
anything: the value is of the type, or of one of the types; where it is an object, it has the
required members, and those for which there are properties satisfy them. -/
inductive Satisfies : Value → Value → Prop
  /-- The JSON Schema that any value satisfies. -/
  | true (v : Value) : Satisfies (.bool true) v
  /-- What is no JSON Schema asserts nothing. -/
  | malformed {s : Value} (notBool : ∀ b, s ≠ .bool b)
      (notObject : ∀ keywords, s ≠ .object keywords) (v : Value) : Satisfies s v
  /-- The keywords assert something each. -/
  | keywords {keywords : Table Value} {v : Value}
      (type : ∀ name ∈ typeNames, keywords.get? "type" = some (.string name) →
        v.isOfType name = true)
      (types : ∀ names, keywords.get? "type" = some (ofStrings names) →
        (∀ name ∈ names, name ∈ typeNames) → ∃ name ∈ names, v.isOfType name = true)
      (required : ∀ names members, keywords.get? "required" = some (.array names) →
        v = .object members → ∀ name, .string name ∈ names → Table.has members name = true)
      (properties : ∀ schemas members, keywords.get? "properties" = some (.object schemas) →
        v = .object members → ∀ p ∈ schemas, ∀ w, Table.get? members p.1 = some w →
          Satisfies p.2 w) :
    Satisfies (.object keywords) v

variable {keywords : Table Value} {v : Value}

/-- A value that is admitted is admitted by each keyword. -/
theorem admitsAll_of_get? {keyword : String} {argument : Value}
    (h : admitsAll keywords v = Bool.true) (found : keywords.get? keyword = some argument) :
    (if keyword = "type" then v.isOfTypes argument
      else if keyword = "required" then v.hasRequired argument
      else if keyword = "properties" then admitsProperties argument v
      else Bool.true) = Bool.true := by
  induction keywords with
  | nil => cases found
  | cons k keywords ih =>
    obtain ⟨k, a⟩ := k
    rw [admitsAll, Bool.and_eq_true] at h
    rw [Table.get?_cons] at found
    split at found
    next same =>
      cases found
      rw [← same]
      exact h.1
    next => exact ih h.2 found

/-- A value of one of several types is of one of them. -/
theorem isOfType_of_isOfTypes {names : List String}
    (h : v.isOfTypes (ofStrings names) = Bool.true) :
    ∃ name ∈ names, v.isOfType name = Bool.true := by
  simpa [isOfTypes, ofStrings, string?] using h

/-- A value has each member that is required of it. -/
theorem has_of_hasRequired {names : List Value} {members : Table Value}
    (h : (object members).hasRequired (.array names) = Bool.true) {name : String}
    (listed : .string name ∈ names) : Table.has members name = Bool.true := by
  have each : ∀ n ∈ names, n.string?.any (Table.has members) = Bool.true := by
    simpa [hasRequired] using h
  exact each _ listed

/-- The JSON Schemas of properties stand inside the one that has them. -/
theorem sizeOf_lt_of_properties {schemas : Table Value}
    (found : keywords.get? "properties" = some (.object schemas)) {p : String × Value}
    (hp : p ∈ schemas) : sizeOf p.2 < sizeOf (object keywords) := by
  have inner := List.sizeOf_lt_of_mem hp
  have outer := List.sizeOf_lt_of_mem (Table.mem_of_get? found)
  obtain ⟨name, schema⟩ := p
  simp only [Prod.mk.sizeOf_spec, object.sizeOf_spec] at *
  omega

/-- A value that is admitted satisfies the JSON Schema. -/
theorem satisfies_of_admits {s v : Value} (h : s.admits v = Bool.true) : s.Satisfies v := by
  match s with
  | .null | .number _ | .string _ | .array _ => exact .malformed (by rintro _ ⟨⟩) (by rintro _ ⟨⟩) v
  | .bool b =>
    rw [admits] at h
    exact h ▸ .true v
  | .object keywords =>
    rw [admits_object] at h
    refine .keywords (fun name _ found ↦ admitsAll_of_get? h found)
      (fun names found _ ↦ isOfType_of_isOfTypes (admitsAll_of_get? h found)) ?_ ?_
    · rintro names members found rfl name listed
      exact has_of_hasRequired (admitsAll_of_get? h found) listed
    · rintro schemas members found rfl p hp w held
      have admitted : admitsProperties (.object schemas) (.object members) = Bool.true :=
        admitsAll_of_get? h found
      rw [admitsProperties] at admitted
      exact satisfies_of_admits (admitsMembers_iff.1 admitted p hp w held)
termination_by sizeOf s
decreasing_by exact sizeOf_lt_of_properties found hp

/-! ### Kinds and names of types -/

/-- A value of a type that has a name is of the kind of that name, or it is a whole number. -/
theorem name_of_isOfType {name : String} (h : v.isOfType name = Bool.true) :
    v.kind.name = name ∨ name = "integer" ∧ v.kind = .number := by
  cases v with
  | number n =>
    refine (Bool.or_eq_true_iff.1 h).imp eq_of_beq fun whole ↦ ?_
    exact ⟨eq_of_beq (Bool.and_eq_true_iff.1 whole).1, rfl⟩
  | null | bool | string | array | object =>
    exact .inl (eq_of_beq ((Bool.or_eq_true_iff.1 h).resolve_right nofun))

theorem name_ne_integer (k : Kind) : k.name ≠ "integer" := by
  cases k <;> decide

/-- A value of a type has its kind. -/
theorem kind_eq_of_isOfType {k : Kind} (h : v.isOfType k.name = Bool.true) : v.kind = k := by
  have injective : ∀ k', Kind.name k' = k.name → k' = k := by
    intro k'
    cases k <;> cases k' <;> decide
  exact injective _ ((name_of_isOfType h).resolve_right fun whole ↦
    name_ne_integer k whole.1)

/-- An integer is a number. -/
theorem kind_eq_number_of_isOfType (h : v.isOfType "integer" = Bool.true) : v.kind = .number :=
  ((name_of_isOfType h).resolve_left (name_ne_integer v.kind)).2

end Json.Value

namespace Schema

/-! ### What is read from it -/

/-- The schemas of the properties are read one by one. -/
theorem propertiesIn_eq (keywords : Table Value) :
    propertiesIn keywords = match keywords.get? "properties" with
      | some (.object schemas) => schemas.map fun p ↦ (p.1, ofJson p.2)
      | _ => [] := by
  have each (schemas : Table Value) :
      memberSchemas schemas = schemas.map fun p ↦ (p.1, ofJson p.2) := by
    induction schemas with
    | nil => rfl
    | cons p schemas ih => rw [memberSchemas, ih, List.map_cons]
  induction keywords with
  | nil => rfl
  | cons k keywords ih =>
    obtain ⟨keyword, argument⟩ := k
    rw [propertiesIn, Table.get?_cons]
    split
    next =>
      cases argument with
      | object schemas => exact each schemas
      | null | bool | number | string | array => rfl
    next => exact ih

/-- A name that is required is in the list of those. -/
theorem contains_requiredNames {keywords : Table Value} {name : String}
    (h : (requiredNames keywords).contains name = true) :
    ∃ names, keywords.get? "required" = some (.array names) ∧ .string name ∈ names := by
  rw [requiredNames] at h
  split at h
  next names found =>
    obtain ⟨v, hv, text⟩ := List.mem_filterMap.1 (List.contains_iff_mem.1 h)
    cases v <;> cases text
    exact ⟨names, found, hv⟩
  next => cases h

/-- A value of the type that is told is of it. -/
theorem isOfType_of_type {keywords : Table Value} {v : Value} {name : String}
    (type : ∀ name ∈ Value.typeNames, keywords.get? "type" = some (.string name) →
      v.isOfType name = true)
    (told : (keywords.get? "type").bind Value.string? = some name)
    (known : name ∈ Value.typeNames) : v.isOfType name = true := by
  obtain ⟨w, found, text⟩ := Option.bind_eq_some_iff.1 told
  cases w <;> cases text
  exact type name known found

/-- An object that has the required members, and whose members satisfy the properties, is valid for
the schema with the fields that are read from them. -/
theorem validateAt_propertiesIn {keywords members : Table Value} {d : Option String}
    (required : ∀ names, keywords.get? "required" = some (.array names) →
      ∀ name, .string name ∈ names → Table.has members name = true)
    (properties : ∀ schemas, keywords.get? "properties" = some (.object schemas) →
      ∀ p ∈ schemas, ∀ w, Table.get? members p.1 = some w →
        ∀ path, (ofJson p.2).validateAt path w = .ok ())
    (path : List String) :
    (Schema.object ((propertiesIn keywords).map fun p ↦
      (p.1, ⟨p.2, (requiredNames keywords).contains p.1⟩)) d).validateAt path (.object members) =
        .ok () := by
  refine validateAt_object_eq_ok_iff.2 ⟨members, rfl, List.forall_mem_map.2 fun p hp ↦ ?_⟩
  cases held : Table.get? members p.1 with
  | none =>
    refine Bool.eq_false_iff.2 fun listed ↦ ?_
    obtain ⟨names, found, named⟩ := contains_requiredNames listed
    have there := required names found p.1 named
    rw [Table.has, held] at there
    cases there
  | some w =>
    rw [propertiesIn_eq] at hp
    split at hp
    next schemas found =>
      obtain ⟨q, hq, rfl⟩ := List.mem_map.1 hp
      exact .inr (properties schemas found q hq w held _)
    next => exact absurd hp List.not_mem_nil

/-- A value that satisfies a JSON Schema is valid for the schema that is read from it. -/
theorem validateAt_ofJson {s v : Value} (h : s.Satisfies v) (path : List String) :
    (ofJson s).validateAt path v = .ok () := by
  induction h generalizing path with
  | true v => rfl
  | @malformed s notBool notObject v =>
    cases s with
    | object keywords => exact absurd rfl (notObject keywords)
    | null | bool | number | string | array => rfl
  | @keywords keywords v type types required properties ih =>
    rw [ofJson, assemble]
    split
    -- `number` and `integer` both ask for a number
    next told =>
      exact validateAt_scalar_eq_ok_iff.2
        (Value.kind_eq_of_isOfType (isOfType_of_type type told (by decide)))
    next told =>
      exact validateAt_scalar_eq_ok_iff.2
        (Value.kind_eq_number_of_isOfType (isOfType_of_type type told (by decide)))
    next told =>
      exact validateAt_scalar_eq_ok_iff.2
        (Value.kind_eq_of_isOfType (isOfType_of_type type told (by decide)))
    next told =>
      exact validateAt_scalar_eq_ok_iff.2
        (Value.kind_eq_of_isOfType (isOfType_of_type type told (by decide)))
    next told =>
      obtain ⟨members, rfl⟩ := Value.kind_eq_object.1
        (Value.kind_eq_of_isOfType (isOfType_of_type type told (by decide)))
      exact validateAt_propertiesIn (fun names found ↦ required names members found rfl)
        (fun schemas found p hp w held ↦ ih schemas members found rfl p hp w held) path
    next => rw [validateAt]

/-- Reading never narrows a JSON Schema. What a JSON Schema admits satisfies it, also in the widest
sense, and whatever satisfies it is valid for the schema that is read from it, be it written by hand
and odd at any level. The JSON Schemas that are published are read as what they were published for.
-/
theorem ofJson_widens :
    (∀ s v : Value, s.admits v = true → s.Satisfies v) ∧
    (∀ s v : Value, s.Satisfies v → (ofJson s).validate v = .ok ()) ∧
    ∀ s : Schema, s.WellFormed → ofJson s.toJson = s :=
  ⟨fun _ _ ↦ Value.satisfies_of_admits, fun _ _ h ↦ validateAt_ofJson h [], ofJson_toJson⟩

/-- A JSON Schema that was edited by hand: with whole numbers, a list of types, a truth value for a
schema, a name that is required but is no property, and a keyword of no meaning. -/
def edited : Value :=
  .object [("required", .ofStrings ["id", "stamp"]), ("type", .string "object"),
    ("properties", .object [("id", .object [("type", .string "integer")]),
      ("tag", .object [("type", .ofStrings ["string", "null"])]), ("rest", .bool true)]),
    ("strict", .bool true)]

/-- An object that the edited JSON Schema admits is valid for what is read from it. So is one that
it does not admit, as its id is no whole number. -/
theorem ofJson_widens_edited :
    (ofJson edited).validate (.object [("tag", .null), ("id", .number (.integer 7)),
        ("stamp", .array []), ("rest", .object [])]) = .ok () ∧
      edited.admits (.object [("id", .number (.double ⟨false, 1, -1⟩)), ("stamp", .null)]) =
        false ∧
      (ofJson edited).validate (.object [("id", .number (.double ⟨false, 1, -1⟩)),
        ("stamp", .null)]) = .ok () := by
  obtain ⟨admitted, widens, -⟩ := ofJson_widens
  exact ⟨widens edited _ (admitted edited _ (by decide)), by decide, rfl⟩

end Schema

end Toolsmith
