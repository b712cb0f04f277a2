import Toolsmith.Proofs.Json.RoundTrip
import Toolsmith.Proofs.Json.Value
import Toolsmith.Schema.JsonSchema

/-!
# Schemas read back from their JSON Schema

A JSON Schema lists the required names apart from the properties, leaves the list out where it is
empty, and leaves out descriptions that are absent. Reading puts all of it together again, for
fields of any name, also names such as `type` or `required` that mean something one level up.

## Main definitions

* `Schema.WellFormed`: no object schema has two fields of one name.

## Main statements

* `Schema.ofJson_toJson`: a well-formed schema is read back from its JSON Schema.
* `Schema.decode_toJson`: the same for the decoder of schemas.
-/

namespace Toolsmith

open Json (Value)

namespace Schema

mutual
/-- No object schema in the schema has two fields of one name. -/
def WellFormed : Schema → Prop
  | .object fields _ => (Table.names fields).Nodup ∧ WellFormedFields fields
  | _ => True

/-- No object schema in the fields has two fields of one name. -/
def WellFormedFields : List (String × Field Schema) → Prop
  | [] => True
  | (_, ⟨schema, _⟩) :: fields => schema.WellFormed ∧ WellFormedFields fields
end

/-- Fields are well-formed if the schema of each is. -/
theorem wellFormedFields_iff {fields : List (String × Field Schema)} :
    WellFormedFields fields ↔ ∀ f ∈ fields, f.2.schema.WellFormed := by
  induction fields with
  | nil => simp [WellFormedFields]
  | cons f fields ih => simp only [WellFormedFields, ih, List.forall_mem_cons]

/-! ### The JSON Schema of an object -/

/-- The properties of an object schema. -/
def properties (fields : Table (Field Schema)) : Table Value :=
  fields.map fun f ↦ (f.1, f.2.schema.toJson)

/-- The names of the fields that have to be there. -/
def requiredFields (fields : Table (Field Schema)) : List String :=
  (fields.filter (·.2.required)).map (·.1)

/-- The members of the JSON Schema of an object: its properties, the list of required names where
it is not empty, and the description where there is one. -/
def objectMembers (fields : Table (Field Schema)) (d : Option String) : Table Value :=
  [("type", .string "object"), ("properties", .object (properties fields))] ++
    (if (requiredFields fields).isEmpty then []
      else [("required", .ofStrings (requiredFields fields))]) ++ descriptionMember d

/-- The properties have the names of the fields. -/
theorem names_properties (fields : Table (Field Schema)) :
    Table.names (properties fields) = fields.names :=
  List.map_map

/-- Fields with distinct new names are added one after the other. -/
theorem addProperties_eq (s : ObjectSchema) (fields : Table (Field Schema))
    (distinct : (Table.names (s.properties ++ properties fields)).Nodup)
    (inside : ∀ name ∈ s.required, name ∈ s.properties.names) :
    addProperties s fields =
      { s with
        properties := s.properties ++ properties fields
        required := s.required ++ requiredFields fields } := by
  induction fields generalizing s with
  | nil => simp [addProperties, properties, requiredFields]
  | cons f fields ih =>
    obtain ⟨name, schema, required⟩ := f
    have fresh : name ∉ s.properties.names := Table.notMem_names_of_nodup distinct
    -- The required names are names of properties, so a new name is in neither list.
    have unlisted : s.isRequired name = false := by
      simpa [ObjectSchema.isRequired] using fun h ↦ fresh (inside name h)
    have step : s.addProperty name schema.toJson required =
        { s with
          properties := s.properties ++ [(name, schema.toJson)]
          required := s.required ++ if required then [name] else [] } := by
      cases required <;> simp [ObjectSchema.addProperty, unlisted,
        Table.insert_of_notMem fresh]
    rw [addProperties, step, ih]
    · cases required <;> simp [properties, requiredFields]
    · simpa [properties] using distinct
    · intro other h
      rw [Table.names_append, List.mem_append]
      rcases List.mem_append.1 h with h | h
      · exact .inl (inside other h)
      · refine .inr ?_
        cases required with
        | false => cases h
        | true => exact h

/-- A JSON Schema with the properties and the required names of fields, member by member. -/
theorem toJson_eq_objectMembers (fields : Table (Field Schema)) (d : Option String) :
    ObjectSchema.toJson
        { properties := properties fields, required := requiredFields fields, description := d } =
      .object (objectMembers fields d) :=
  rfl

/-- The JSON Schema of an object schema, member by member. -/
theorem toJson_object (fields : Table (Field Schema)) (d : Option String)
    (distinct : fields.names.Nodup) :
    (Schema.object fields d).toJson = .object (objectMembers fields d) := by
  rw [← names_properties] at distinct
  rw [toJson, addProperties_eq {} fields distinct (fun _ h ↦ absurd h List.not_mem_nil)]
  exact toJson_eq_objectMembers fields d

/-! ### Reading it back -/

@[simp] theorem get?_descriptionMember (d : Option String) :
    (Table.get? (descriptionMember d) "description").bind Value.string? = d := by
  cases d <;> rfl

theorem get?_descriptionMember_of_ne (d : Option String) {name : String}
    (h : name ≠ "description") : Table.get? (descriptionMember d) name = none := by
  cases d with
  | none => rfl
  | some d => exact if_neg fun he ↦ h he.symm

/-- A field is required as the list of required names says. -/
theorem contains_requiredFields {fields : Table (Field Schema)} (distinct : fields.names.Nodup)
    {f : String × Field Schema} (hf : f ∈ fields) :
    (requiredFields fields).contains f.1 = f.2.required := by
  rw [Bool.eq_iff_iff, List.contains_iff_mem, requiredFields, List.mem_map]
  constructor
  · rintro ⟨g, hg, he⟩
    rw [List.mem_filter] at hg
    rw [← List.inj_on_of_nodup_map distinct hg.1 hf he]
    exact hg.2
  · exact fun h ↦ ⟨f, List.mem_filter.2 ⟨hf, h⟩, rfl⟩

/-- A type that is a scalar is read back with its description. -/
theorem assemble_scalar (k : ScalarKind) (d : Option String) (ps : List (String × Schema)) :
    assemble (("type", .string k.name) :: descriptionMember d) ps = .scalar k d := by
  cases k <;> simp [assemble, Table.get?_cons, ScalarKind.name, Value.string?]

/-- A description without a type is that of a value without constraints. -/
theorem assemble_unconstrained (d : Option String) (ps : List (String × Schema)) :
    assemble (descriptionMember d) ps = .unconstrained d := by
  have untyped : Table.get? (descriptionMember d) "type" = none :=
    get?_descriptionMember_of_ne d (by decide)
  simp [assemble, untyped]

/-- The required names are read back from the members of a JSON Schema. -/
theorem requiredNames_toJson (s : ObjectSchema) :
    s.toJson.object?.map requiredNames = some s.required := by
  obtain ⟨type, props, required, description⟩ := s
  have texts : (required.map Value.string).filterMap Value.string? = required := by
    rw [List.filterMap_map]
    exact List.filterMap_some
  cases required with
  | nil => cases description <;> rfl
  | cons name names => exact congrArg some texts

/-- The names that are required are read back. -/
theorem requiredNames_objectMembers (fields : Table (Field Schema)) (d : Option String) :
    requiredNames (objectMembers fields d) = requiredFields fields := by
  have read := requiredNames_toJson
    { properties := properties fields, required := requiredFields fields, description := d }
  rw [toJson_eq_objectMembers] at read
  exact Option.some.inj read

/-- An object schema is put together again from its members and the schemas of its fields. -/
theorem assemble_object {fields : Table (Field Schema)} (distinct : fields.names.Nodup)
    (d : Option String) :
    assemble (objectMembers fields d) (fields.map fun f ↦ (f.1, f.2.schema)) =
      .object fields d := by
  have described : (Table.get? (objectMembers fields d) "description").bind Value.string? = d := by
    rw [objectMembers]
    split <;> simp [Table.get?_cons]
  have restored : (fields.map fun f ↦ (f.1, f.2.schema)).map
      (fun p ↦ (p.1, (⟨p.2, (requiredFields fields).contains p.1⟩ : Field Schema))) = fields := by
    rw [List.map_map]
    refine (List.map_congr_left fun f hf ↦ ?_).trans (List.map_id _)
    simp only [Function.comp_apply, contains_requiredFields distinct hf, id]
  have typed : (Table.get? (objectMembers fields d) "type").bind Value.string? =
      some "object" := rfl
  simp only [assemble, described, typed, requiredNames_objectMembers, restored]

mutual
/-- A well-formed schema is read back from its JSON Schema. -/
theorem ofJson_toJson : ∀ s : Schema, s.WellFormed → ofJson s.toJson = s
  | .scalar k d, _ => by rw [toJson, ofJson, assemble_scalar]
  | .unconstrained d, _ => by rw [toJson, ofJson, assemble_unconstrained]
  | .object fields d, h => by
    have schemas : propertiesIn (objectMembers fields d) =
        fields.map fun f ↦ (f.1, f.2.schema) :=
      memberSchemas_properties fields h.2
    rw [toJson_object fields d h.1, ofJson]
    change assemble (objectMembers fields d) (propertiesIn (objectMembers fields d)) = _
    rw [schemas, assemble_object h.1]

/-- The schemas of the properties are read back. -/
theorem memberSchemas_properties : ∀ fields : List (String × Field Schema),
    WellFormedFields fields →
    memberSchemas (properties fields) = fields.map fun f ↦ (f.1, f.2.schema)
  | [], _ => rfl
  | (name, ⟨schema, required⟩) :: fields, h => by
    rw [properties, List.map_cons, memberSchemas, List.map_cons, ofJson_toJson schema h.1]
    exact congrArg ((name, schema) :: ·) (memberSchemas_properties fields h.2)
end

/-! ### JSON Schemas as values -/

/-- A description is made of texts only. -/
theorem plainMembers_descriptionMember (d : Option String) :
    Value.PlainMembers (descriptionMember d) := by
  cases d with
  | none => trivial
  | some d => exact ⟨trivial, trivial⟩

theorem plain_descriptionMember (d : Option String) :
    (Value.object (descriptionMember d)).Plain := by
  refine ⟨?_, plainMembers_descriptionMember d⟩
  cases d with
  | none => exact List.nodup_nil
  | some d => exact List.nodup_singleton _

/-- No keyword of an object occurs twice. -/
theorem names_objectMembers_nodup (fields : Table (Field Schema)) (d : Option String) :
    (objectMembers fields d).names.Nodup := by
  rw [objectMembers]
  cases d <;> split <;> simp [Table.names, descriptionMember]

mutual
/-- The JSON Schema of a well-formed schema holds no number and no repeated name. -/
theorem plain_toJson : ∀ s : Schema, s.WellFormed → s.toJson.Plain
  | .scalar k d, _ => by
    refine ⟨?_, trivial, plainMembers_descriptionMember d⟩
    cases d <;> simp [Table.names, descriptionMember]
  | .unconstrained d, _ => plain_descriptionMember d
  | .object fields d, h => by
    rw [toJson_object fields d h.1]
    refine ⟨names_objectMembers_nodup fields d, ?_⟩
    rw [objectMembers, Value.plainMembers_append, Value.plainMembers_append]
    have props : (Value.object (properties fields)).Plain :=
      ⟨(names_properties fields).symm ▸ h.1, plain_properties fields h.2⟩
    refine ⟨⟨⟨trivial, props, trivial⟩, ?_⟩, plainMembers_descriptionMember d⟩
    split
    · trivial
    · exact ⟨Value.plain_ofStrings _, trivial⟩

/-- Properties are made of what JSON texts can hold. -/
theorem plain_properties : ∀ fields : List (String × Field Schema),
    WellFormedFields fields → Value.PlainMembers (properties fields)
  | [], _ => trivial
  | (_, ⟨schema, _⟩) :: fields, h => ⟨plain_toJson schema h.1, plain_properties fields h.2⟩
end

/-- A description adds no depth. -/
theorem depth_descriptionMember (d : Option String) :
    Value.depthMembers (descriptionMember d) = 0 := by
  cases d <;> rfl

theorem depth_toJson_scalar (k : ScalarKind) (d : Option String) :
    (Schema.scalar k d).toJson.depth = 1 := by
  simp [toJson, Value.depth, Value.depthMembers, depth_descriptionMember]

theorem depth_toJson_unconstrained (d : Option String) :
    (Schema.unconstrained d).toJson.depth = 1 := by
  simp [toJson, Value.depth, depth_descriptionMember]

/-- An object schema nests two levels deeper than its fields. -/
theorem depth_toJson_object_le {fields : Table (Field Schema)} {d : Option String} {bound : Nat}
    (distinct : fields.names.Nodup) (h : ∀ f ∈ fields, f.2.schema.toJson.depth ≤ bound) :
    (Schema.object fields d).toJson.depth ≤ bound + 2 := by
  have props : Value.depthMembers (properties fields) ≤ bound :=
    Value.depthMembers_le fun m hm ↦ by
      obtain ⟨f, hf, rfl⟩ := List.mem_map.1 hm
      exact h f hf
  have listed : Value.depthMembers (if (requiredFields fields).isEmpty then []
      else [("required", .ofStrings (requiredFields fields))]) ≤ 1 := by
    split
    · exact Nat.zero_le _
    · simp [Value.depthMembers, Value.depth_ofStrings]
  rw [toJson_object fields d distinct, Value.depth, objectMembers, Value.depthMembers_append,
    Value.depthMembers_append, depth_descriptionMember]
  simp only [Value.depthMembers, Value.depth]
  omega

/-- A well-formed schema is what the decoder of schemas reads from its JSON Schema. -/
theorem decode_toJson (s : Schema) (h : s.WellFormed) :
    Schema.decode (.ofValue s.toJson) = .ok s := by
  rw [Schema.decode, Json.Node.value_ofValue _ (plain_toJson s h), Except.map, ofJson_toJson s h]

/-- A schema is read alike everywhere. -/
theorem decode_steady : Json.Decoder.Steady Schema.decode :=
  Json.Decoder.any_steady.map ofJson

end Schema

end Toolsmith
