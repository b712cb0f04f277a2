import Toolsmith.Schema.Basic

/-!
# Validation

A value either has the shape of a schema or violates it at a place, which is the chain of field
names that leads there. Fields are checked in order of declaration and the first violation is
reported. An optional field may be absent or null, and members that no field declares are
admitted.

## Main definitions

* `Schema.Violation`: what is wrong with a value, and where.
* `Schema.validate`: the first violation, if any.
-/

namespace Toolsmith.Schema

open Json (Value)

/-- What is wrong with a value, and the field names that lead there. -/
inductive Violation where
  /-- A required field is absent. -/
  | missingField (path : List String)
  /-- A value is of the wrong kind. -/
  | wrongKind (path : List String) (expected found : Json.Kind)
deriving DecidableEq

namespace Violation

/-- The text of a path from the root. -/
def pathText (path : List String) : String :=
  path.foldl (fun t name ↦ t ++ "." ++ name) "$"

/-- The wording of a violation. -/
def message : Violation → String
  | .missingField path => "missing required field '" ++ pathText path ++ "'"
  | .wrongKind path expected found =>
    "'" ++ pathText path ++ "': expected " ++ expected.name ++ ", found " ++ found.name

end Violation

mutual
/-- Checks a value that stands at the end of a path. -/
def validateAt : Schema → List String → Value → Except Violation Unit
  | .unconstrained _, _, _ => .ok ()
  | .scalar k _, path, v =>
    if v.kind = k.jsonKind then .ok () else .error (.wrongKind path k.jsonKind v.kind)
  | .object fs _, path, v =>
    match v with
    | .object members => validateFields fs path members
    | v => .error (.wrongKind path .object v.kind)

/-- Checks the fields of an object that stands at the end of a path. -/
def validateFields : List (String × Field Schema) → List String → Table Value →
    Except Violation Unit
  | [], _, _ => .ok ()
  | (name, ⟨schema, required⟩) :: fs, path, members =>
    match members.get? name with
    | none =>
      if required then .error (.missingField (path ++ [name])) else validateFields fs path members
    | some .null =>
      if required then do
        schema.validateAt (path ++ [name]) .null
        validateFields fs path members
      else validateFields fs path members
    | some v => do
      schema.validateAt (path ++ [name]) v
      validateFields fs path members
end

/-- Checks a value. -/
def validate (s : Schema) (v : Value) : Except Violation Unit :=
  s.validateAt [] v

end Toolsmith.Schema
