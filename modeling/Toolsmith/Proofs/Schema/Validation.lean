import Toolsmith.Proofs.Json.Distinct
import Toolsmith.Proofs.Schema.Admission
import Toolsmith.Schema.Validation

/-!
# Validation against the published JSON Schema

A schema is read in two ways: it checks values itself, and it is published as a JSON Schema that
others check values against. The two readings differ in one point only. Null in place of an optional
field counts as absent for the schema, and as a value like any other for the JSON Schema. So a value
is valid exactly if the JSON Schema admits what is left of it without such nulls, at every level
that the schema describes; and whatever the JSON Schema admits as it is, is valid.

Both readings go through the fields of an object one by one. What they come to is said field by
field, by what the object holds under the name of the field, so that one induction over the schema
compares them.

## Main definitions

* `Schema.prune`: a value without the nulls in place of optional fields.

## Main statements

* `Schema.validateAt_eq_ok_iff`: valid values and values whose rest is admitted are the same.
* `Schema.validateAt_of_admits`: admitted values are valid.
-/

namespace Toolsmith

open Json (Value)

theorem Json.Value.kind_eq_null {v : Value} : v.kind = .null ↔ v = .null := by
  cases v <;> simp [kind]

theorem Json.Value.kind_eq_object {v : Value} :
    v.kind = .object ↔ ∃ members, v = .object members := by
  cases v <;> simp [kind]

/-- What a field looks at of the value under its name: null is nothing where the field is
optional. -/
def Field.seen {σ : Type} (f : Field σ) (v? : Option Value) : Option Value :=
  if f.required then v? else v?.filter (·.kind ≠ .null)

@[simp] theorem Field.seen_none {σ : Type} (f : Field σ) : f.seen none = none := by
  rw [seen, Option.filter_none, ite_self]

/-- A field that may be missing is seen as missing where it is null. -/
theorem Field.seen_some {σ : Type} (f : Field σ) (v : Value) :
    f.seen (some v) = if v.kind = .null ∧ f.required = false then none else some v := by
  rw [seen, Option.filter_some]
  cases f.required <;> by_cases null : v.kind = .null <;> simp [null]

namespace Schema

mutual
/-- Induction over a schema: an object schema is made of the schemas of its fields. -/
theorem induction {P : Schema → Prop} (scalar : ∀ k d, P (.scalar k d))
    (object : ∀ (fields : Table (Field Schema)) (d : Option String),
      (∀ f ∈ fields, P f.2.schema) → P (.object fields d))
    (unconstrained : ∀ d, P (.unconstrained d)) : ∀ s : Schema, P s
  | .scalar k d => scalar k d
  | .object fields d => object fields d (inductionFields scalar object unconstrained fields)
  | .unconstrained d => unconstrained d

/-- What holds of a schema because it holds of its fields, holds of each field of a list. -/
theorem inductionFields {P : Schema → Prop} (scalar : ∀ k d, P (.scalar k d))
    (object : ∀ (fields : Table (Field Schema)) (d : Option String),
      (∀ f ∈ fields, P f.2.schema) → P (.object fields d))
    (unconstrained : ∀ d, P (.unconstrained d)) :
    ∀ fields : List (String × Field Schema), ∀ f ∈ fields, P f.2.schema
  | [], _, h => absurd h List.not_mem_nil
  | (_, ⟨s, _⟩) :: rest, f, h => by
    rcases List.mem_cons.1 h with rfl | h
    · exact induction scalar object unconstrained s
    · exact inductionFields scalar object unconstrained rest f h
end

/-! ### Nulls in place of optional fields -/

mutual
/-- The value without the members that are null in place of an optional field, in all objects that
the schema describes. -/
def prune : Schema → Value → Value
  | .object fields _, .object members => .object (pruneMembers fields members)
  | _, v => v

/-- The members of an object without those that are null in place of an optional field. -/
def pruneMembers : Table (Field Schema) → List (String × Value) → List (String × Value)
  | _, [] => []
  | fields, (name, v) :: rest =>
    match fields.get? name with
    | none => (name, v) :: pruneMembers fields rest
    | some f =>
      if v.kind = .null ∧ f.required = false then pruneMembers fields rest
      else (name, f.schema.prune v) :: pruneMembers fields rest
end

/-- Pruning an object prunes its members. -/
theorem prune_object (fields : Table (Field Schema)) (d : Option String) (members : Table Value) :
    (Schema.object fields d).prune (.object members) = .object (pruneMembers fields members) := by
  rw [prune]

theorem prune_scalar (k : ScalarKind) (d : Option String) (v : Value) :
    (Schema.scalar k d).prune v = v := by
  cases v <;> rfl

/-- Pruning changes no kind. -/
theorem kind_prune (s : Schema) (v : Value) : (s.prune v).kind = v.kind := by
  cases v <;> cases s <;> rfl

/-- What an object holds under the name of a field is pruned, or left out where it is null and the
field is optional. -/
theorem get?_pruneMembers {fields : Table (Field Schema)} {members : Table Value}
    (distinct : members.names.Nodup) {name : String} {f : Field Schema}
    (hf : fields.get? name = some f) :
    Table.get? (pruneMembers fields members) name =
      (members.get? name).bind fun v ↦
        if v.kind = .null ∧ f.required = false then none else some (f.schema.prune v) := by
  induction members with
  | nil => rfl
  | cons m members ih =>
    obtain ⟨k, v⟩ := m
    obtain ⟨new, distinct⟩ := List.nodup_cons.1 distinct
    rw [pruneMembers, Table.get?_cons]
    by_cases hk : k = name
    · -- a member that is left out stands nowhere else
      subst hk
      have absent : Table.get? members k = none := Table.get?_eq_none_iff.2 new
      rw [hf, if_pos rfl]
      by_cases idle : v.kind = .null ∧ f.required = false
      · simp [idle, ih distinct, absent]
      · simp [idle, Table.get?_cons]
    · rw [if_neg hk, ← ih distinct]
      split
      · rw [Table.get?_cons, if_neg hk]
      · split
        · rfl
        · rw [Table.get?_cons, if_neg hk]

/-! ### Field by field -/

/-- Checks a field at the end of a path, given the value under its name. -/
def checkField (f : Field Schema) (path : List String) (v? : Option Value) :
    Except Violation Unit :=
  match f.seen v? with
  | some v => f.schema.validateAt path v
  | none => if f.required then .error (.missingField path) else .ok ()

/-- Fields are checked one after the other, each at its own path. -/
theorem validateFields_cons (name : String) (f : Field Schema)
    (fields : List (String × Field Schema)) (path : List String) (members : Table Value) :
    validateFields ((name, f) :: fields) path members =
      checkField f (path ++ [name]) (members.get? name) >>= fun _ ↦
        validateFields fields path members := by
  obtain ⟨schema, required⟩ := f
  rw [validateFields, checkField]
  split
  next held =>
    rw [held, Field.seen_none]
    cases required <;> rfl
  next held =>
    rw [held, Field.seen_some]
    cases required <;> rfl
  next v other held =>
    have kind : v.kind ≠ .null := fun null ↦ other (Value.kind_eq_null.1 null)
    rw [held, Field.seen_some, if_neg fun idle ↦ kind idle.1]

/-- Members of two objects are checked alike if every field comes to the same. -/
theorem validateFields_congr_check {fields : List (String × Field Schema)} {path : List String}
    {ms ms' : Table Value}
    (same : ∀ f ∈ fields, checkField f.2 (path ++ [f.1]) (ms.get? f.1) =
      checkField f.2 (path ++ [f.1]) (ms'.get? f.1)) :
    validateFields fields path ms = validateFields fields path ms' := by
  induction fields with
  | nil => rw [validateFields, validateFields]
  | cons f fields ih =>
    obtain ⟨first, rest⟩ := List.forall_mem_cons.1 same
    rw [validateFields_cons, validateFields_cons, ih rest, first]

/-- The members of an object are checked alike if every field sees the same of them. -/
theorem validateFields_congr {fields : List (String × Field Schema)} {path : List String}
    {ms ms' : Table Value}
    (same : ∀ f ∈ fields, f.2.seen (ms.get? f.1) = f.2.seen (ms'.get? f.1)) :
    validateFields fields path ms = validateFields fields path ms' :=
  validateFields_congr_check fun f hf ↦ by rw [checkField, checkField, same f hf]

/-- Whether a field allows what an object holds under its name: nothing or null where it is
optional, and a value that is valid for its schema. -/
def Allows (f : Field Schema) (path : List String) : Option Value → Prop
  | none => f.required = false
  | some v => v.kind = .null ∧ f.required = false ∨ f.schema.validateAt path v = .ok ()

/-- A field passes its check if it allows the value. -/
theorem checkField_eq_ok_iff {f : Field Schema} {path : List String} {v? : Option Value} :
    checkField f path v? = .ok () ↔ Allows f path v? := by
  rw [checkField]
  cases v? with
  | none => cases required : f.required <;> simp [Allows, required]
  | some v =>
    rw [Field.seen_some, Allows]
    by_cases idle : v.kind = .null ∧ f.required = false
    · simp [idle]
    · rw [if_neg idle]
      exact (or_iff_right idle).symm

/-- An object is valid exactly if every field allows what the object holds under its name. -/
theorem validateFields_eq_ok_iff {fields : List (String × Field Schema)} {path : List String}
    {members : Table Value} :
    validateFields fields path members = .ok () ↔
      ∀ f ∈ fields, Allows f.2 (path ++ [f.1]) (members.get? f.1) := by
  induction fields with
  | nil => simp [validateFields]
  | cons f fields ih =>
    rw [validateFields_cons, check_bind_eq_ok, checkField_eq_ok_iff, ih, List.forall_mem_cons]

/-- A value is valid for an object schema exactly if it is an object that every field allows. -/
theorem validateAt_object_eq_ok_iff {fields : Table (Field Schema)} {d : Option String}
    {path : List String} {v : Value} :
    (Schema.object fields d).validateAt path v = .ok () ↔
      ∃ members, v = .object members ∧
        ∀ f ∈ fields, Allows f.2 (path ++ [f.1]) (Table.get? members f.1) := by
  cases v with
  | object members =>
    rw [validateAt, validateFields_eq_ok_iff]
    simp
  | null | bool | number | string | array => simp [validateAt]

/-- A scalar passes its check if it is of the right kind. -/
theorem validateAt_scalar_eq_ok_iff {k : ScalarKind} {d : Option String} {path : List String}
    {v : Value} : (Schema.scalar k d).validateAt path v = .ok () ↔ v.kind = k.jsonKind := by
  rw [validateAt]
  split
  next h => exact ⟨fun _ ↦ h, fun _ ↦ rfl⟩
  next h => exact ⟨fun he ↦ (nomatch he), fun he ↦ absurd he h⟩

/-! ### The two readings -/

/-- Whatever the JSON Schema of a schema admits is valid. -/
theorem validateAt_of_admits {s : Schema} (h : s.WellFormed) {v : Value}
    (admitted : s.toJson.admits v = true) (path : List String) : s.validateAt path v = .ok () := by
  induction s using Schema.induction generalizing v path with
  | scalar k d => exact validateAt_scalar_eq_ok_iff.2 (admits_toJson_scalar.1 admitted)
  | unconstrained d => rw [validateAt]
  | object fields d ih =>
    obtain ⟨members, rfl, each⟩ := (admits_toJson_object h.1).1 admitted
    refine validateAt_object_eq_ok_iff.2 ⟨members, rfl, fun f hf ↦ ?_⟩
    obtain ⟨present, admitted⟩ := each f hf
    cases hm : Table.get? members f.1 with
    | none =>
      refine Bool.eq_false_iff.2 fun required ↦ ?_
      simpa [Table.has, hm] using present required
    | some w =>
      exact .inr (ih f hf (wellFormedFields_iff.1 h.2 f hf) (admitted w hm) _)

/-- A value is valid exactly if the JSON Schema admits what is left of it without the nulls in place
of optional fields. -/
theorem validateAt_eq_ok_iff {s : Schema} (h : s.WellFormed) {v : Value} (hv : v.WellFormed)
    (path : List String) :
    s.validateAt path v = .ok () ↔ s.toJson.admits (s.prune v) = true := by
  induction s using Schema.induction generalizing v path with
  | scalar k d => rw [validateAt_scalar_eq_ok_iff, admits_toJson_scalar, kind_prune]
  | unconstrained d =>
    rw [validateAt, admits_toJson_unconstrained]
    simp
  | object fields d ih =>
    rw [validateAt_object_eq_ok_iff, admits_toJson_object h.1]
    cases v with
    | null | bool | number | string | array => simp [prune]
    | object members =>
      have field (f : String × Field Schema) (hf : f ∈ fields) :
          Allows f.2 (path ++ [f.1]) (Table.get? members f.1) ↔
            (f.2.required = true → Table.has (pruneMembers fields members) f.1 = true) ∧
            ∀ w, Table.get? (pruneMembers fields members) f.1 = some w →
              f.2.schema.toJson.admits w = true := by
        have found : Table.get? fields f.1 = some f.2 := (Table.get?_eq_some_iff h.1).2 hf
        rw [Table.has, get?_pruneMembers hv.1 found]
        cases hm : Table.get? members f.1 with
        | none => cases hr : f.2.required <;> simp [Allows, hr]
        | some w =>
          have valid := ih f hf (wellFormedFields_iff.1 h.2 f hf) (hv.of_get? hm) (path ++ [f.1])
          by_cases idle : w.kind = .null ∧ f.2.required = false
          · simp [Allows, idle]
          · simp [Allows, idle, valid]
      rw [prune_object]
      constructor
      · rintro ⟨_, he, each⟩
        cases he
        exact ⟨_, rfl, fun f hf ↦ (field f hf).1 (each f hf)⟩
      · rintro ⟨_, he, each⟩
        cases he
        exact ⟨_, rfl, fun f hf ↦ (field f hf).2 (each f hf)⟩

end Schema

end Toolsmith
