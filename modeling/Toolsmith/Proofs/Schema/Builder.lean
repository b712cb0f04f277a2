import Mathlib.Data.List.Perm.Subperm
import Toolsmith.Proofs.Schema.RoundTrip

/-!
# Object schemas put together in steps

Fields can be added one by one to a builder, which keeps with each field whether it has to be there,
or as properties to a JSON Schema, which keeps the required names in a list of their own. A step for
a name that is there replaces its schema on both sides, and the name keeps its place. Whether the
name is required is another matter. The builder goes by the last step, while the list only grows: a
name that some step required stays in it, behind those that were required earlier.

So the two sides have the same properties after any steps, and they differ in the required names at
most. They agree exactly if no name is required by some step and not by the last one for it, and the
names came to be required in the order in which they were added. That is the case where no step for
a name takes back what an earlier one said.

## Main definitions

* `ObjectSchema.ofSteps`, `Schema.Builder.ofSteps`: what becomes of steps on either side.
* `Schema.lastStep?`: the field of the last step for a name.
* `Schema.RequiredOnce`, `Schema.RequiredLast`: names that some step requires, or the last one.
* `Schema.Steady`: steps that take nothing back.

## Main statements

* `ObjectSchema.ofSteps_eq`, `Schema.Builder.toJson_build_ofSteps`: both sides in closed form.
* `Schema.toJson_ofSteps`: what they have in common, and when they agree.
* `Schema.toJson_ofSteps_fails`: a name that is not required any more.
-/

namespace Toolsmith

open Json (Value)
open Schema (Builder properties requiredFields)

variable {steps : List (String × Field Schema)} {fields : Table (Field Schema)} {name : String}

/-! ### Steps on either side -/

/-- The JSON Schema that properties are added to, one for each step. -/
def ObjectSchema.ofSteps (steps : List (String × Field Schema)) : ObjectSchema :=
  steps.foldl (fun s f ↦ s.addProperty f.1 f.2.schema.toJson f.2.required) {}

namespace Schema

/-- The builder that fields are added to, one for each step. -/
def Builder.ofSteps (steps : List (String × Field Schema)) : Builder :=
  steps.foldl (fun b f ↦ b.field f.1 f.2.schema f.2.required) {}

/-- The field of the last step for a name. -/
def lastStep? (steps : List (String × Field Schema)) (name : String) : Option (Field Schema) :=
  ((steps.filter (·.1 = name)).getLast?).map (·.2)

/-- Whether some step requires a name. -/
def RequiredOnce (steps : List (String × Field Schema)) (name : String) : Prop :=
  ∃ f ∈ steps, f.1 = name ∧ f.2.required = true

/-- Whether the last step for a name requires it. -/
def RequiredLast (steps : List (String × Field Schema)) (name : String) : Prop :=
  ∃ field, lastStep? steps name = some field ∧ field.required = true

/-- Whether no step for a name takes back what an earlier one says on whether it is required. -/
def Steady (steps : List (String × Field Schema)) : Prop :=
  ∀ f ∈ steps, ∀ g ∈ steps, f.1 = g.1 → f.2.required = g.2.required

/-! ### The fields of a builder -/

theorem Builder.ofSteps_append_singleton (steps : List (String × Field Schema))
    (f : String × Field Schema) :
    ofSteps (steps ++ [f]) = (ofSteps steps).field f.1 f.2.schema f.2.required :=
  List.foldl_append

/-- A builder holds a table that the fields are put into one after the other. -/
theorem Builder.ofSteps_eq (steps : List (String × Field Schema)) :
    ofSteps steps = { fields := steps.foldl (fun t f ↦ t.insert f.1 f.2) [] } := by
  induction steps using List.reverseRecOn with
  | nil => rfl
  | append_singleton steps f ih =>
    rw [ofSteps_append_singleton, ih, List.foldl_append]
    rfl

/-- A builder has each name of its steps once, in order of first use. -/
theorem Builder.names_ofSteps (steps : List (String × Field Schema)) :
    (ofSteps steps).fields.names = (steps.map (·.1)).eraseDups := by
  rw [ofSteps_eq, Table.names_foldl_insert]
  simp

theorem Builder.nodup_names_ofSteps (steps : List (String × Field Schema)) :
    (ofSteps steps).fields.names.Nodup := by
  induction steps using List.reverseRecOn with
  | nil => exact List.nodup_nil
  | append_singleton steps f ih =>
    rw [ofSteps_append_singleton]
    exact Table.nodup_names_insert ih _ _

/-- A builder has under a name what the last step of that name gave it. -/
theorem Builder.get?_ofSteps (steps : List (String × Field Schema)) (name : String) :
    (ofSteps steps).fields.get? name = lastStep? steps name := by
  rw [ofSteps_eq, Table.get?_foldl_insert, Table.get?_nil, Option.or_none]
  rfl

/-- The last step for a name is one of the steps for it. -/
theorem mem_of_lastStep? {field : Field Schema} (h : lastStep? steps name = some field) :
    (name, field) ∈ steps := by
  obtain ⟨f, last, rfl⟩ := Option.map_eq_some_iff.1 h
  obtain ⟨mem, named⟩ := List.mem_filter.1 (List.mem_of_getLast? last)
  rwa [← of_decide_eq_true named]

/-- There is a last step of a name that some step has. -/
theorem exists_lastStep? {f : String × Field Schema} (h : f ∈ steps) :
    ∃ field, lastStep? steps f.1 = some field := by
  have known : f.1 ∈ (Builder.ofSteps steps).fields.names := by
    rw [Builder.names_ofSteps, List.mem_eraseDups]
    exact List.mem_map_of_mem h
  rw [← Builder.get?_ofSteps]
  exact Option.ne_none_iff_exists'.1 fun none ↦ Table.get?_eq_none_iff.1 none known

/-! ### Fields as properties -/

theorem get?_properties (fields : Table (Field Schema)) (name : String) :
    Table.get? (properties fields) name = (fields.get? name).map (·.schema.toJson) :=
  Table.get?_map (fun _ (f : Field Schema) ↦ f.schema.toJson) fields name

/-- A field that is put into a table becomes a property that is put into its properties. -/
theorem properties_insert (fields : Table (Field Schema)) (name : String) (field : Field Schema) :
    properties (fields.insert name field) =
      Table.insert (properties fields) name field.schema.toJson := by
  induction fields with
  | nil => rfl
  | cons f fields ih =>
    obtain ⟨k, g⟩ := f
    show properties (if k = name then (k, field) :: fields else (k, g) :: Table.insert fields _ _) =
      if k = name then (k, field.schema.toJson) :: properties fields
      else (k, g.schema.toJson) :: Table.insert (properties fields) _ _
    rw [← ih]
    split <;> rfl

/-! ### Required names -/

/-- Of fields with distinct names, a name is required if its field is. -/
theorem mem_requiredFields (distinct : fields.names.Nodup) :
    name ∈ requiredFields fields ↔
      ∃ field, fields.get? name = some field ∧ field.required = true := by
  simp only [requiredFields, List.mem_map, List.mem_filter, Table.get?_eq_some_iff distinct]
  constructor
  · rintro ⟨⟨_, field⟩, ⟨mem, required⟩, rfl⟩
    exact ⟨field, mem, required⟩
  · rintro ⟨field, mem, required⟩
    exact ⟨(name, field), ⟨mem, required⟩, rfl⟩

theorem mem_requiredFields_steps : name ∈ requiredFields steps ↔ RequiredOnce steps name := by
  simp only [requiredFields, RequiredOnce, List.mem_map, List.mem_filter, and_assoc]
  exact exists_congr fun f ↦ and_congr_right fun _ ↦ and_comm

/-- The names that are required are in the order of the fields. -/
theorem requiredFields_sublist (fields : Table (Field Schema)) :
    (requiredFields fields).Sublist fields.names :=
  List.filter_sublist.map _

theorem requiredFields_append_singleton (steps : List (String × Field Schema))
    (f : String × Field Schema) :
    requiredFields (steps ++ [f]) =
      requiredFields steps ++ if f.2.required then [f.1] else [] := by
  rw [requiredFields, requiredFields, List.filter_append, List.map_append]
  cases required : f.2.required <;> simp [required]

/-! ### The list of a JSON Schema -/

end Schema

namespace ObjectSchema

theorem ofSteps_append_singleton (steps : List (String × Field Schema))
    (f : String × Field Schema) :
    ofSteps (steps ++ [f]) = (ofSteps steps).addProperty f.1 f.2.schema.toJson f.2.required :=
  List.foldl_append

/-- Adding a property puts it among the others, and its name behind the names that are required
where it is required and none of them. -/
theorem ofSteps_eq (steps : List (String × Field Schema)) :
    ofSteps steps =
      { properties := Schema.properties (Builder.ofSteps steps).fields
        required := (requiredFields steps).eraseDups } := by
  induction steps using List.reverseRecOn with
  | nil => rfl
  | append_singleton steps f ih =>
    have put : Schema.properties (Builder.ofSteps (steps ++ [f])).fields =
        Table.insert (Schema.properties (Builder.ofSteps steps).fields) f.1 f.2.schema.toJson := by
      rw [Builder.ofSteps_append_singleton, ← Schema.properties_insert]
      rfl
    have listed : (requiredFields (steps ++ [f])).eraseDups =
        if f.2.required && !(requiredFields steps).eraseDups.contains f.1 then
          (requiredFields steps).eraseDups ++ [f.1] else (requiredFields steps).eraseDups := by
      rw [Schema.requiredFields_append_singleton]
      cases f.2.required with
      | false => simp
      | true =>
        rw [if_pos rfl, Table.eraseDups_append_singleton]
        by_cases known : f.1 ∈ requiredFields steps <;> simp [known]
    rw [ofSteps_append_singleton, ih, put, listed]
    rfl

/-- Both ways of building have the same properties. -/
theorem properties_ofSteps (steps : List (String × Field Schema)) :
    (ofSteps steps).properties = Schema.properties (Builder.ofSteps steps).fields := by
  rw [ofSteps_eq]

/-- The object requires each name that a step required, in order of the first such step. -/
theorem required_ofSteps (steps : List (String × Field Schema)) :
    (ofSteps steps).required = (requiredFields steps).eraseDups := by
  rw [ofSteps_eq]

/-- Adding a property lists no name twice. -/
theorem nodup_required_addProperty {s : ObjectSchema} (h : s.required.Nodup) (name : String)
    (schema : Value) (required : Bool) : (s.addProperty name schema required).required.Nodup := by
  show (if required && !s.isRequired name then s.required ++ [name] else s.required).Nodup
  split
  next new =>
    have unlisted : name ∉ s.required := by simpa [isRequired] using (Bool.and_eq_true_iff.1 new).2
    exact List.nodup_append.2 ⟨h, List.nodup_singleton name, fun a ha b hb same ↦
      unlisted (List.eq_of_mem_singleton hb ▸ same ▸ ha)⟩
  next => exact h

/-- It requires no name twice. -/
theorem nodup_required_ofSteps (steps : List (String × Field Schema)) :
    (ofSteps steps).required.Nodup := by
  induction steps using List.reverseRecOn with
  | nil => exact List.nodup_nil
  | append_singleton steps f ih =>
    rw [ofSteps_append_singleton]
    exact nodup_required_addProperty ih _ _ _

/-- JSON Schemas that differ in their required names at most are the same if those are. -/
theorem toJson_eq_iff {s : ObjectSchema} {listed : List String} :
    s.toJson = ({ s with required := listed } : ObjectSchema).toJson ↔ s.required = listed := by
  constructor
  · intro same
    have read := congrArg (fun v ↦ v.object?.map Schema.requiredNames) same
    simp only [Schema.requiredNames_toJson] at read
    exact Option.some.inj read
  · rintro rfl
    rfl

end ObjectSchema

namespace Schema

/-! ### Both sides compared -/

/-- The JSON Schema of what is built lists the fields of the last steps that are required, and is
otherwise the one that the same steps add to. -/
theorem Builder.toJson_build_ofSteps (steps : List (String × Field Schema)) :
    (ofSteps steps).build.toJson =
      ({ ObjectSchema.ofSteps steps with
        required := requiredFields (ofSteps steps).fields } : ObjectSchema).toJson := by
  have bare : (ofSteps steps).description = none := by rw [ofSteps_eq]
  have added : addProperties {} (ofSteps steps).fields =
      { properties := properties (ofSteps steps).fields
        required := requiredFields (ofSteps steps).fields } := by
    refine addProperties_eq {} _ ?_ (fun _ h ↦ absurd h List.not_mem_nil)
    rw [List.nil_append, names_properties]
    exact nodup_names_ofSteps steps
  rw [build, bare, toJson, added, ObjectSchema.ofSteps_eq]

/-- The builder requires a name if the last step of that name does. -/
theorem Builder.mem_requiredFields_ofSteps :
    name ∈ requiredFields (ofSteps steps).fields ↔ RequiredLast steps name := by
  rw [mem_requiredFields (nodup_names_ofSteps steps), get?_ofSteps, RequiredLast]

/-- A name that the last step for it requires is required by a step. -/
theorem RequiredLast.once (h : RequiredLast steps name) : RequiredOnce steps name := by
  obtain ⟨field, last, required⟩ := h
  exact ⟨(name, field), mem_of_lastStep? last, rfl, required⟩

/-- The lists of required names agree if each name that is required once is required by the last
step for it, and the names come to be required in the order in which they are added. -/
theorem eraseDups_requiredFields_eq_iff (steps : List (String × Field Schema)) :
    (requiredFields steps).eraseDups = requiredFields (Builder.ofSteps steps).fields ↔
      (∀ name, RequiredOnce steps name → RequiredLast steps name) ∧
      (requiredFields steps).eraseDups.Sublist (steps.map (·.1)).eraseDups := by
  have distinct := Builder.nodup_names_ofSteps steps
  have inside := requiredFields_sublist (Builder.ofSteps steps).fields
  rw [Builder.names_ofSteps] at inside distinct
  constructor
  · intro same
    refine ⟨fun name once ↦ ?_, same ▸ inside⟩
    rwa [← Builder.mem_requiredFields_ofSteps, ← same, List.mem_eraseDups,
      mem_requiredFields_steps]
  · rintro ⟨kept, order⟩
    rw [← distinct.perm_iff_eq_of_sublist order inside,
      List.perm_ext_iff_of_nodup (distinct.sublist order) (distinct.sublist inside)]
    intro name
    rw [Builder.mem_requiredFields_ofSteps, List.mem_eraseDups, mem_requiredFields_steps]
    exact ⟨kept name, RequiredLast.once⟩

/-- Steps that take nothing back require names in the order in which they add them. -/
theorem Steady.sublist (h : Steady steps) :
    (requiredFields steps).eraseDups.Sublist (steps.map (·.1)).eraseDups := by
  induction steps using List.reverseRecOn with
  | nil => exact List.Sublist.refl []
  | append_singleton steps f ih =>
    have earlier := ih fun f hf g hg ↦ h f (List.mem_append_left _ hf) g (List.mem_append_left _ hg)
    have last : f ∈ steps ++ [f] := List.mem_append_right _ (List.mem_singleton_self f)
    rw [requiredFields_append_singleton, List.map_append, List.map_singleton,
      Table.eraseDups_append_singleton]
    cases required : f.2.required with
    | false =>
      rw [if_neg Bool.false_ne_true, List.append_nil]
      split
      next => exact earlier
      next => exact earlier.trans (List.sublist_append_left _ _)
    | true =>
      rw [if_pos rfl, Table.eraseDups_append_singleton]
      -- A name that is there was required by the step that it is there from.
      have known : f.1 ∈ requiredFields steps ↔ f.1 ∈ steps.map (·.1) := by
        rw [mem_requiredFields_steps, List.mem_map]
        refine exists_congr fun g ↦ and_congr_right fun hg ↦ and_iff_left_of_imp fun same ↦ ?_
        rw [h g (List.mem_append_left _ hg) f last same, required]
      simp only [known]
      split
      next => exact earlier
      next => exact earlier.append (List.Sublist.refl _)

/-- Steps that take nothing back require a name with the last step for it or with none. -/
theorem Steady.requiredLast (h : Steady steps) (once : RequiredOnce steps name) :
    RequiredLast steps name := by
  obtain ⟨f, mem, rfl, required⟩ := once
  obtain ⟨field, last⟩ := exists_lastStep? mem
  exact ⟨field, last, (h f mem _ (mem_of_lastStep? last) rfl).symm.trans required⟩

/-- Steps add the same properties to a JSON Schema as they build: each name where the first step for
it put it, with the schema of the last one. The JSON Schema lists each name once that some step
requires, in the order of these steps, while what is built lists those that the last step for them
requires, in the order of the properties. So the two are the same exactly if each name that some
step requires is required by the last step for it, and the names come to be required in the order
in which they are added. They are the same if the steps take nothing back. -/
theorem toJson_ofSteps (steps : List (String × Field Schema)) :
    let added := ObjectSchema.ofSteps steps
    let built := (Builder.ofSteps steps).build
    (added.properties.names = (steps.map (·.1)).eraseDups ∧ added.properties.names.Nodup ∧
      ∀ name, added.properties.get? name = (lastStep? steps name).map (·.schema.toJson)) ∧
    (added.required = ((steps.filter (·.2.required)).map (·.1)).eraseDups ∧
      added.required.Nodup ∧ (∀ name ∈ added.required, name ∈ added.properties.names) ∧
      ∀ name, name ∈ added.required ↔ RequiredOnce steps name) ∧
    (∃ listed : List String,
      built.toJson = ({ added with required := listed } : ObjectSchema).toJson ∧
      listed.Nodup ∧ listed.Sublist added.properties.names ∧
      ∀ name, name ∈ listed ↔ RequiredLast steps name) ∧
    (added.toJson = built.toJson ↔
      (∀ name, RequiredOnce steps name → RequiredLast steps name) ∧
      added.required.Sublist added.properties.names) ∧
    (Steady steps → added.toJson = built.toJson) := by
  intro added built
  have names : added.properties.names = (Builder.ofSteps steps).fields.names := by
    rw [ObjectSchema.properties_ofSteps, names_properties]
  have distinct : added.properties.names.Nodup := names ▸ Builder.nodup_names_ofSteps steps
  have required (name : String) : name ∈ added.required ↔ RequiredOnce steps name := by
    rw [ObjectSchema.required_ofSteps, List.mem_eraseDups, mem_requiredFields_steps]
  have inside : ∀ name ∈ added.required, name ∈ added.properties.names := by
    intro name listed
    obtain ⟨f, mem, rfl, -⟩ := (required name).1 listed
    rw [names, Builder.names_ofSteps, List.mem_eraseDups]
    exact List.mem_map_of_mem mem
  have order : (requiredFields (Builder.ofSteps steps).fields).Sublist added.properties.names :=
    names ▸ requiredFields_sublist _
  have agree : added.toJson = built.toJson ↔
      (∀ name, RequiredOnce steps name → RequiredLast steps name) ∧
      added.required.Sublist added.properties.names := by
    rw [Builder.toJson_build_ofSteps, ObjectSchema.toJson_eq_iff, names, Builder.names_ofSteps,
      ObjectSchema.required_ofSteps]
    exact eraseDups_requiredFields_eq_iff steps
  refine ⟨⟨names.trans (Builder.names_ofSteps steps), distinct, fun name ↦ ?_⟩,
    ⟨ObjectSchema.required_ofSteps steps, ObjectSchema.nodup_required_ofSteps steps, inside,
      required⟩,
    ⟨requiredFields (Builder.ofSteps steps).fields, Builder.toJson_build_ofSteps steps,
      distinct.sublist order, order, fun name ↦ Builder.mem_requiredFields_ofSteps⟩,
    agree, fun steady ↦ agree.2 ⟨fun name ↦ steady.requiredLast, ?_⟩⟩
  · rw [ObjectSchema.properties_ofSteps, get?_properties, Builder.get?_ofSteps]
  · rw [names, Builder.names_ofSteps, ObjectSchema.required_ofSteps]
    exact steady.sublist

/-- Steps for two fields, one of which is given another schema. -/
def retyped : List (String × Field Schema) :=
  [("id", ⟨.scalar .number none, true⟩), ("tag", ⟨.unconstrained none, false⟩),
    ("id", ⟨.scalar .string none, true⟩)]

/-- The id keeps its place and is required once. -/
theorem toJson_ofSteps_retyped :
    (ObjectSchema.ofSteps retyped).toJson = (Builder.ofSteps retyped).build.toJson ∧
      (ObjectSchema.ofSteps retyped).properties.names = ["id", "tag"] ∧
      (ObjectSchema.ofSteps retyped).required = ["id"] := by
  obtain ⟨⟨names, -⟩, -, -, -, agree⟩ := toJson_ofSteps retyped
  refine ⟨agree ?_, names.trans (by decide), by decide⟩
  unfold Steady retyped
  decide

/-- Steps for one field, which is required at first and then is not. -/
def withdrawn : List (String × Field Schema) :=
  [("id", ⟨.scalar .string none, true⟩), ("id", ⟨.scalar .string none, false⟩)]

/-- Steps for two fields, the first of which is required after the second. -/
def belated : List (String × Field Schema) :=
  [("id", ⟨.unconstrained none, false⟩), ("tag", ⟨.unconstrained none, true⟩),
    ("id", ⟨.unconstrained none, true⟩)]

/-- The last step for a name that is required does not take it out of the list of a JSON Schema, and
a name that is required late stands behind the others. What the same steps build has no such list in
the one case, and has it in another order in the other. -/
theorem toJson_ofSteps_fails :
    ((ObjectSchema.ofSteps withdrawn).required = ["id"] ∧
      lastStep? withdrawn "id" = some ⟨.scalar .string none, false⟩ ∧
      (Builder.ofSteps withdrawn).build.toJson = .object [("type", .string "object"),
        ("properties", .object [("id", .object [("type", .string "string")])])] ∧
      (ObjectSchema.ofSteps withdrawn).toJson ≠ (Builder.ofSteps withdrawn).build.toJson) ∧
    ((ObjectSchema.ofSteps belated).required = ["tag", "id"] ∧
      (ObjectSchema.ofSteps belated).toJson ≠ (Builder.ofSteps belated).build.toJson) := by
  have differ (steps : List (String × Field Schema))
      (other : (ObjectSchema.ofSteps steps).required ≠
        requiredFields (Builder.ofSteps steps).fields) :
      (ObjectSchema.ofSteps steps).toJson ≠ (Builder.ofSteps steps).build.toJson := by
    rwa [ne_eq, Builder.toJson_build_ofSteps, ObjectSchema.toJson_eq_iff]
  exact ⟨⟨by decide, rfl, rfl, differ withdrawn (by decide)⟩, by decide, differ belated (by decide)⟩

end Schema

end Toolsmith
