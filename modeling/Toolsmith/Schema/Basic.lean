import Toolsmith.Json.Form

/-!
# Schemas

A schema is the shape of a value: a scalar of one of three kinds, an object with named fields,
or anything at all. The fields of an object are an ordered table, and each says whether it has
to be there. A schema may carry a description.

## Main definitions

* `ScalarKind`, `Field`, `Schema`: the shapes.
* `Schema.Builder`: an object schema put together field by field.
-/

namespace Toolsmith

/-- The kinds of scalars. -/
inductive ScalarKind where
  /-- A number. -/
  | number
  /-- A truth value. -/
  | boolean
  /-- A text, and whatever is not known to be anything else. -/
  | string
deriving DecidableEq, Inhabited

namespace ScalarKind

/-- The name of a kind. -/
def name : ScalarKind → String
  | .number => "number"
  | .boolean => "boolean"
  | .string => "string"

/-- The kinds by name. -/
def byName : Table ScalarKind :=
  [("number", .number), ("boolean", .boolean), ("string", .string)]

/-- The kind of JSON values that a scalar kind admits. -/
def jsonKind : ScalarKind → Json.Kind
  | .number => .number
  | .boolean => .boolean
  | .string => .string

/-- Reads the name of a kind. -/
def decode : Json.Decoder ScalarKind :=
  Json.named byName

end ScalarKind

/-- A field of an object: the shape of its value and whether it has to be there. -/
structure Field (σ : Type) where
  /-- The shape of the value. -/
  schema : σ
  /-- Whether the field has to be there. -/
  required : Bool

/-- The shape of a value. -/
inductive Schema where
  /-- One kind of scalar. -/
  | scalar (kind : ScalarKind) (description : Option String)
  /-- An object with fields in order of declaration. -/
  | object (fields : List (String × Field Schema)) (description : Option String)
  /-- Anything. -/
  | unconstrained (description : Option String)

namespace Schema

instance : Inhabited Schema := ⟨.unconstrained none⟩

/-- The description. -/
def description : Schema → Option String
  | .scalar _ d => d
  | .object _ d => d
  | .unconstrained d => d

/-- The schema with another description. -/
def describe (d : Option String) : Schema → Schema
  | .scalar k _ => .scalar k d
  | .object fs _ => .object fs d
  | .unconstrained _ => .unconstrained d

/-- Whether the schema admits anything by being unconstrained. -/
def isUnconstrained : Schema → Bool
  | .unconstrained _ => true
  | _ => false

/-- The kind of a scalar schema. -/
def kind? : Schema → Option ScalarKind
  | .scalar k _ => some k
  | _ => none

/-- The fields of an object schema. -/
def fields? : Schema → Option (Table (Field Schema))
  | .object fs _ => some fs
  | _ => none

/-- A field of an object schema. -/
def field? (s : Schema) (name : String) : Option (Field Schema) :=
  s.fields?.bind (·.get? name)

mutual
/-- Whether two schemas are the same, fields in the same order. -/
def same : Schema → Schema → Bool
  | .scalar k d, .scalar k' d' => k == k' && d == d'
  | .object fs d, .object fs' d' => sameFields fs fs' && d == d'
  | .unconstrained d, .unconstrained d' => d == d'
  | _, _ => false

/-- Whether two lists of fields are the same. -/
def sameFields : List (String × Field Schema) → List (String × Field Schema) → Bool
  | [], [] => true
  | (n, ⟨s, r⟩) :: fs, (n', ⟨s', r'⟩) :: fs' =>
    n == n' && r == r' && s.same s' && sameFields fs fs'
  | _, _ => false
end

instance : BEq Schema := ⟨same⟩

/-- An object schema in the making. -/
structure Builder where
  /-- The fields so far. -/
  fields : Table (Field Schema) := []
  /-- The description. -/
  description : Option String := none

namespace Builder

/-- Adds a field of any shape. -/
def field (b : Builder) (name : String) (schema : Schema) (required : Bool) : Builder :=
  { b with fields := b.fields.insert name ⟨schema, required⟩ }

/-- Adds a scalar field. -/
def scalar (b : Builder) (name : String) (kind : ScalarKind) (description : Option String)
    (required : Bool) : Builder :=
  b.field name (.scalar kind description) required

/-- Sets the description. -/
def describe (b : Builder) (description : String) : Builder :=
  { b with description := some description }

/-- The schema. -/
def build (b : Builder) : Schema :=
  .object b.fields b.description

end Builder

end Schema

end Toolsmith
