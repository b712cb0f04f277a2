import Toolsmith.Proofs.Schema.RoundTrip

/-!
# What a JSON Schema admits

A JSON Schema is a JSON value and says by itself which values it admits, whatever it was written
for: each of its keywords asserts something of a value, and a value is admitted where all of them
hold. The keywords that assert something here are `type`, `properties` and `required`; any other
one, such as `description`, asserts nothing.

Keywords are read one by one, so the JSON Schema of an object schema, whose list of required names
stands apart from its properties, has to be shown to ask of each field what the field says.

## Main definitions

* `Json.Value.admits`: whether a JSON Schema admits a value.

## Main statements

* `Schema.admits_toJson_scalar`, `Schema.admits_toJson_unconstrained`,
  `Schema.admits_toJson_object`: what the JSON Schema of a schema admits.
-/

namespace Toolsmith

namespace Json

/-- Whether the number is whole, however it is written. -/
def Number.isWhole : Number → Bool
  | .integer _ => true
  | .double x => x.num % x.den == 0

namespace Value

/-- Whether the value is of the type that JSON Schema calls by a name: the name of its kind, or
`integer` for whole numbers. -/
def isOfType (v : Value) (type : String) : Bool :=
  v.kind.name == type ||
    match v with
    | .number n => type == "integer" && n.isWhole
    | _ => false

/-- What the keyword `type` asserts of a value: it is of the named type, or of one of several. -/
def isOfTypes (v : Value) : Value → Bool
  | .string type => v.isOfType type
  | .array types => types.any fun type ↦ type.string?.any v.isOfType
  | _ => false

/-- What the keyword `required` asserts of a value: an object has a member of each name. -/
def hasRequired (v : Value) : Value → Bool
  | .array names =>
    match v with
    | .object members => names.all fun name ↦ name.string?.any (Table.has members)
    | _ => true
  | _ => false

mutual
/-- Whether a JSON Schema, which is a truth value or an object with keywords, admits a value. -/
def admits : Value → Value → Bool
  | .bool b, _ => b
  | .object keywords, v => admitsAll keywords v
  | _, _ => false
termination_by structural s => s

/-- Whether all keywords hold of a value. -/
def admitsAll : List (String × Value) → Value → Bool
  | [], _ => true
  | (keyword, argument) :: rest, v =>
    (if keyword = "type" then v.isOfTypes argument
      else if keyword = "required" then v.hasRequired argument
      else if keyword = "properties" then admitsProperties argument v
      else true) && admitsAll rest v

/-- What the keyword `properties` asserts of a value: the members of an object that are named are
admitted by the JSON Schemas under their names. -/
def admitsProperties : Value → Value → Bool
  | .object properties, .object members => admitsMembers properties members
  | .object _, _ => true
  | _, _ => false

/-- Whether named members are admitted by the JSON Schemas under their names. -/
def admitsMembers : List (String × Value) → Table Value → Bool
  | [], _ => true
  | (name, schema) :: rest, members =>
    (match members.get? name with
      | some v => schema.admits v
      | none => true) && admitsMembers rest members
end

theorem admits_object (keywords : Table Value) (v : Value) :
    (object keywords).admits v = admitsAll keywords v := by
  rw [admits]

theorem admitsAll_append (ks ls : Table Value) (v : Value) :
    admitsAll (ks ++ ls) v = (admitsAll ks v && admitsAll ls v) := by
  induction ks with
  | nil => rw [List.nil_append, admitsAll, Bool.true_and]
  | cons k ks ih => rw [List.cons_append, admitsAll, admitsAll, ih, Bool.and_assoc]

/-- Members are admitted if each property admits the member of its name. -/
theorem admitsMembers_iff {properties members : Table Value} :
    admitsMembers properties members = true ↔
      ∀ p ∈ properties, ∀ v, members.get? p.1 = some v → p.2.admits v = true := by
  induction properties with
  | nil => simp [admitsMembers]
  | cons p properties ih =>
    obtain ⟨name, schema⟩ := p
    rw [admitsMembers, Bool.and_eq_true, ih, List.forall_mem_cons]
    refine and_congr_left fun _ ↦ ?_
    split
    next w hw => simp [hw]
    next hw => simp [hw]

/-- An object has what is required if it has a member of each name. -/
theorem hasRequired_ofStrings {names : List String} {members : Table Value} :
    (object members).hasRequired (ofStrings names) = true ↔
      ∀ name ∈ names, Table.has members name = true := by
  simp [hasRequired, ofStrings, string?]

end Value

end Json

namespace Schema

open Json (Value)

theorem admitsAll_descriptionMember (d : Option String) (v : Value) :
    Value.admitsAll (descriptionMember d) v = true := by
  cases d with
  | none => rfl
  | some d => simp [descriptionMember, Value.admitsAll]

/-- A scalar admits the values of its kind. -/
theorem admits_toJson_scalar {k : ScalarKind} {d : Option String} {v : Value} :
    (Schema.scalar k d).toJson.admits v = true ↔ v.kind = k.jsonKind := by
  rw [toJson, Value.admits_object, Value.admitsAll, admitsAll_descriptionMember]
  cases k <;> cases v <;>
    simp [Value.isOfTypes, Value.isOfType, Value.kind, ScalarKind.jsonKind, ScalarKind.name,
      Json.Kind.name]

/-- What is unconstrained admits every value. -/
theorem admits_toJson_unconstrained (d : Option String) (v : Value) :
    (Schema.unconstrained d).toJson.admits v = true := by
  rw [toJson, Value.admits_object, admitsAll_descriptionMember]

/-- The list of required names, which is left out where it is empty, asks for the required fields.
-/
theorem admitsAll_required {fields : Table (Field Schema)} {members : Table Value} :
    Value.admitsAll (if (requiredFields fields).isEmpty then []
        else [("required", .ofStrings (requiredFields fields))]) (.object members) = true ↔
      ∀ f ∈ fields, f.2.required = true → Table.has members f.1 = true := by
  have listed : (∀ name ∈ requiredFields fields, Table.has members name = true) ↔
      ∀ f ∈ fields, f.2.required = true → Table.has members f.1 = true := by
    simp only [requiredFields, List.forall_mem_map, List.mem_filter, and_imp]
  rw [← listed]
  split
  next none =>
    rw [List.isEmpty_iff.1 none]
    exact ⟨fun _ _ h ↦ absurd h List.not_mem_nil, fun _ ↦ rfl⟩
  next =>
    rw [← Value.hasRequired_ofStrings]
    simp [Value.admitsAll]

/-- An object schema admits the objects that have a member for each required field, and whose
members are admitted by the schemas of their fields. -/
theorem admits_toJson_object {fields : Table (Field Schema)} (distinct : fields.names.Nodup)
    {d : Option String} {v : Value} :
    (Schema.object fields d).toJson.admits v = true ↔
      ∃ members, v = .object members ∧ ∀ f ∈ fields,
        (f.2.required = true → Table.has members f.1 = true) ∧
        ∀ w, Table.get? members f.1 = some w → f.2.schema.toJson.admits w = true := by
  rw [toJson_object fields d distinct, Value.admits_object, objectMembers, Value.admitsAll_append,
    Value.admitsAll_append, admitsAll_descriptionMember, Bool.and_true, Bool.and_eq_true]
  cases v with
  | object members =>
    have typed : Value.admitsAll [("type", .string "object"),
        ("properties", .object (properties fields))] (.object members) = true ↔
        ∀ f ∈ fields, ∀ w, Table.get? members f.1 = some w →
          f.2.schema.toJson.admits w = true := by
      have admitted := @Value.admitsMembers_iff (properties fields) members
      simp only [properties, List.forall_mem_map] at admitted
      rw [← admitted]
      simp [Value.admitsAll, Value.admitsProperties, Value.isOfTypes, Value.isOfType, Value.kind,
        Json.Kind.name, properties]
    rw [typed, admitsAll_required]
    constructor
    · intro h
      exact ⟨members, rfl, fun f hf ↦ ⟨h.2 f hf, h.1 f hf⟩⟩
    · rintro ⟨_, he, h⟩
      cases he
      exact ⟨fun f hf ↦ (h f hf).2, fun f hf ↦ (h f hf).1⟩
  | null | bool | number | string | array =>
    -- whatever else is asked for, the value is no object
    constructor
    · intro h
      have typed := h.1
      simp [Value.admitsAll, Value.isOfTypes, Value.isOfType, Value.kind, Json.Kind.name] at typed
    · rintro ⟨_, ⟨⟩, _⟩

end Schema

end Toolsmith
