import Toolsmith.Schema.Basic

/-!
# Schemas as JSON Schema

Schemas are published and stored as JSON Schema. A scalar has a `type`, an object has
`properties` and the names that are `required`, and what is unconstrained has neither. Reading
takes any JSON value for a schema: what is not recognised becomes unconstrained.

## Main definitions

* `ObjectSchema`: a JSON Schema of an object, with its list of required names.
* `Schema.toJson`: the JSON Schema of a schema.
* `Schema.ofJson`: the schema that a JSON Schema stands for.
-/

namespace Toolsmith

open Json (Value)

/-- A JSON Schema of an object. -/
structure ObjectSchema where
  /-- The type, which is `object`. -/
  type : String := "object"
  /-- The schemas of the properties. -/
  properties : Table Value := []
  /-- The names that are required, each once. -/
  required : List String := []
  /-- A description. -/
  description : Option String := none

namespace ObjectSchema

/-- Whether a name is required. -/
def isRequired (s : ObjectSchema) (name : String) : Bool :=
  s.required.contains name

/-- Adds or replaces a property; a name that is required stays so. -/
def addProperty (s : ObjectSchema) (name : String) (schema : Value) (required : Bool) :
    ObjectSchema :=
  { s with
    properties := s.properties.insert name schema
    required := if required && !s.isRequired name then s.required ++ [name] else s.required }

/-- The JSON Schema as a value. -/
def toJson (s : ObjectSchema) : Value :=
  .object <|
    [("type", .string s.type), ("properties", .object s.properties)] ++
    (if s.required.isEmpty then [] else [("required", .ofStrings s.required)]) ++
    (s.description.map fun d ↦ ("description", Value.string d)).toList

/-- The record as a form. -/
def form : Json.Form ObjectSchema :=
  ObjectSchema.mk <$> .required "type" .text <*> .required "properties" (.table .any)
    <*> .defaulted "required" [] (.list .text) <*> .optional "description" .text

/-- Reads the record. -/
def decode : Json.Decoder ObjectSchema :=
  form.decode "ObjectJsonSchema"

end ObjectSchema

namespace Schema

/-- The member that holds a description. -/
def descriptionMember (d : Option String) : List (String × Value) :=
  (d.map fun d ↦ ("description", Value.string d)).toList

mutual
/-- The JSON Schema of a schema. -/
def toJson : Schema → Value
  | .scalar k d => .object (("type", .string k.name) :: descriptionMember d)
  | .object fs d => ({ addProperties {} fs with description := d } : ObjectSchema).toJson
  | .unconstrained d => .object (descriptionMember d)

/-- An object's JSON Schema with fields added as properties. -/
def addProperties (s : ObjectSchema) : List (String × Field Schema) → ObjectSchema
  | [] => s
  | (name, ⟨schema, required⟩) :: fs => addProperties (s.addProperty name schema.toJson required) fs
end

/-- The names that a JSON Schema requires. -/
def requiredNames (members : Table Value) : List String :=
  match members.get? "required" with
  | some (.array names) => names.filterMap Value.string?
  | _ => []

/-- The schema of a JSON Schema, given its members and the schemas of its properties. -/
def assemble (members : Table Value) (properties : List (String × Schema)) : Schema :=
  let description := (members.get? "description").bind Value.string?
  match (members.get? "type").bind Value.string? with
  | some "number" => .scalar .number description
  | some "integer" => .scalar .number description
  | some "boolean" => .scalar .boolean description
  | some "string" => .scalar .string description
  | some "object" =>
    let required := requiredNames members
    .object (properties.map fun p ↦ (p.1, ⟨p.2, required.contains p.1⟩)) description
  | _ => .unconstrained description

mutual
/-- The schema that a JSON Schema stands for. -/
def ofJson : Value → Schema
  | .object members => assemble members (propertiesIn members)
  | _ => .unconstrained none

/-- The schemas under the first member named `properties`. -/
def propertiesIn : List (String × Value) → List (String × Schema)
  | [] => []
  | (name, v) :: rest => if name = "properties" then propertySchemas v else propertiesIn rest

/-- The schemas in the members of a value. -/
def propertySchemas : Value → List (String × Schema)
  | .object members => memberSchemas members
  | _ => []

/-- The schemas in members. -/
def memberSchemas : List (String × Value) → List (String × Schema)
  | [] => []
  | (name, v) :: rest => (name, ofJson v) :: memberSchemas rest
end

/-- Reads a schema from any readable node. -/
def decode : Json.Decoder Schema := fun n ↦
  n.value.map ofJson

end Schema

end Toolsmith
