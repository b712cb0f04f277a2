import Toolsmith.Proofs.Schema.Validation

/-!
# The first violation

A value that is not valid is reported with the field names that lead to the first place where it
violates the schema. Following the names, each object on the way is one that an object schema is
declared for and holds the named member; the fields that are declared before the named one fit. At
the end, either a required field is absent, or the value is of another kind than the one expected.

Null in place of an optional field is no member: no violation is found below it, and it does not
stop the search.

What is reported depends on what objects hold under the names of declared fields only. So it stays
the same when members are put in another order or members are added that no field declares, in any
object of the value, and as often as one likes.

## Main definitions

* `Schema.Fits`: a value has the shape of a schema, whatever order it is checked in.
* `Schema.Leads`: where field names lead to, past fields that fit.
* `Schema.FailsAt`: what is wrong with a value itself, or with what it holds.
* `Schema.Rearranged`: a value with its members in another order, and with more of them.

## Main statements

* `Schema.validate_eq_error_iff`: the violation that is reported is the first one.
* `Schema.Rearranged.validateAt_eq`: order and undeclared members make no difference.
-/

namespace Toolsmith

open Json (Value)

namespace Schema

/-- The field names that lead to a violation. -/
def Violation.path : Violation → List String
  | .missingField path => path
  | .wrongKind path _ _ => path

theorem Violation.pathText_eq (path : List String) :
    pathText path = "$" ++ String.join (path.map ("." ++ ·)) := by
  have step (names : List String) (start : String) :
      names.foldl (fun t name ↦ t ++ "." ++ name) start =
        start ++ String.join (names.map ("." ++ ·)) := by
    induction names generalizing start with
    | nil => exact (String.append_empty).symm
    | cons name names ih =>
      rw [List.foldl_cons, ih, List.map_cons, String.join_cons, String.append_assoc,
        String.append_assoc, String.append_assoc]
  exact step path "$"

/-! ### Values that fit -/

mutual
/-- Whether a value has the shape of a schema. -/
inductive Fits : Schema → Value → Prop
  /-- Any value. -/
  | unconstrained (d : Option String) (v : Value) : Fits (.unconstrained d) v
  /-- A scalar of the kind. -/
  | scalar {k : ScalarKind} (d : Option String) {v : Value} (kind : v.kind = k.jsonKind) :
    Fits (.scalar k d) v
  /-- An object in which every field fits. -/
  | object {fields : List (String × Field Schema)} (d : Option String) {members : Table Value}
      (each : ∀ f ∈ fields, FitsField f.2 (Table.get? members f.1)) :
    Fits (.object fields d) (.object members)

/-- Whether a field fits what an object holds under its name. -/
inductive FitsField : Field Schema → Option Value → Prop
  /-- An optional field may be absent. -/
  | absent {f : Field Schema} (optional : f.required = false) : FitsField f none
  /-- Null in place of an optional field is as good as nothing. -/
  | null {f : Field Schema} (optional : f.required = false) : FitsField f (some .null)
  /-- The value fits the schema of the field. -/
  | value {f : Field Schema} {v : Value} (fits : Fits f.schema v) : FitsField f (some v)
end

variable {s : Schema} {v : Value} {path : List String} {e : Violation}

theorem checkField_eq_ok_iff_fits {f : Field Schema} {v? : Option Value}
    (valid : ∀ v, f.schema.validateAt path v = .ok () ↔ f.schema.Fits v) :
    checkField f path v? = .ok () ↔ FitsField f v? := by
  rw [checkField_eq_ok_iff]
  cases v? with
  | none => exact ⟨.absent, fun | .absent optional => optional⟩
  | some v =>
    rw [Allows, valid, Value.kind_eq_null]
    constructor
    · rintro (⟨rfl, optional⟩ | fits)
      · exact .null optional
      · exact .value fits
    · rintro (_ | optional | fits)
      · exact .inl ⟨rfl, optional⟩
      · exact .inr fits

/-- The valid values are those that fit. -/
theorem validateAt_eq_ok_iff_fits (path : List String) :
    s.validateAt path v = .ok () ↔ s.Fits v := by
  induction s using Schema.induction generalizing v path with
  | scalar k d =>
    rw [validateAt_scalar_eq_ok_iff]
    exact ⟨.scalar d, fun | .scalar _ kind => kind⟩
  | unconstrained d => exact ⟨fun _ ↦ .unconstrained d v, fun _ ↦ by rw [validateAt]⟩
  | object fields d ih =>
    have each (members : Table Value) :
        (∀ f ∈ fields, Allows f.2 (path ++ [f.1]) (Table.get? members f.1)) ↔
          ∀ f ∈ fields, FitsField f.2 (Table.get? members f.1) :=
      forall₂_congr fun f hf ↦ by
        rw [← checkField_eq_ok_iff, checkField_eq_ok_iff_fits fun v ↦ ih f hf _]
    rw [validateAt_object_eq_ok_iff]
    constructor
    · rintro ⟨members, rfl, allowed⟩
      exact .object d ((each members).1 allowed)
    · rintro (_ | _ | ⟨_, fits⟩)
      exact ⟨_, rfl, (each _).2 fits⟩

/-! ### Where the first violation is -/

/-- The kind of the values that a schema admits, unless it admits anything. -/
def expected? : Schema → Option Json.Kind
  | .scalar k _ => some k.jsonKind
  | .object _ _ => some .object
  | .unconstrained _ => none

/-- Whether field names lead from a value of a schema to another: each to the member of that name,
in an object that an object schema is declared for, past the fields before it, which fit. -/
inductive Leads : Schema → Value → List String → Schema → Value → Prop
  /-- No name leads on. -/
  | here (s : Schema) (v : Value) : Leads s v [] s v
  /-- The name of a field leads to the member of its name, unless that is null and the field is
  optional. -/
  | field {before after : List (String × Field Schema)} {name : String} {f : Field Schema}
      (d : Option String) {members : Table Value} {w : Value} {names : List String} {t : Schema}
      {u : Value} (earlier : ∀ g ∈ before, FitsField g.2 (members.get? g.1))
      (present : members.get? name = some w) (counts : w.kind = .null → f.required = true)
      (further : Leads f.schema w names t u) :
    Leads (.object (before ++ (name, f) :: after) d) (.object members) (name :: names) t u

/-- Whether a violation is found at the end of a path, and not further down. -/
inductive FailsAt (path : List String) : Schema → Value → Violation → Prop
  /-- The value is an object without a required field, and the fields before it fit. -/
  | missing {before after : List (String × Field Schema)} {name : String} {f : Field Schema}
      (d : Option String) {members : Table Value}
      (earlier : ∀ g ∈ before, FitsField g.2 (members.get? g.1)) (required : f.required = true)
      (absent : members.get? name = none) :
    FailsAt path (.object (before ++ (name, f) :: after) d) (.object members)
      (.missingField (path ++ [name]))
  /-- The value is of another kind than the one expected. -/
  | mismatch {s : Schema} {v : Value} {k : Json.Kind} (expected : s.expected? = some k)
      (found : v.kind ≠ k) :
    FailsAt path s v (.wrongKind path k v.kind)

/-- A field fails its check if it is missing though required, or by its value. -/
theorem checkField_eq_error_iff {f : Field Schema} {v? : Option Value} :
    checkField f path v? = .error e ↔
      (v? = none ∧ f.required = true ∧ e = .missingField path) ∨
        ∃ w, v? = some w ∧ (w.kind = .null → f.required = true) ∧
          f.schema.validateAt path w = .error e := by
  rw [checkField]
  cases v? with
  | none => cases f.required <;> simp [eq_comm]
  | some w =>
    rw [Field.seen_some]
    by_cases idle : w.kind = .null ∧ f.required = false
    · simp [idle]
    · have counts : w.kind = .null → f.required = true := by simpa using idle
      rw [if_neg idle]
      simpa using fun _ ↦ counts

theorem validateAt_object_of_ne {fields : Table (Field Schema)} {d : Option String}
    (h : v.kind ≠ .object) :
    (Schema.object fields d).validateAt path v = .error (.wrongKind path .object v.kind) := by
  cases v with
  | object members => exact absurd rfl h
  | null | bool | number | string | array => rfl

/-- An object is reported for the first of its fields that does not fit. -/
theorem validateFields_eq_error_iff {fields : List (String × Field Schema)}
    {members : Table Value} :
    validateFields fields path members = .error e ↔
      ∃ before name f after, fields = before ++ (name, f) :: after ∧
        (∀ g ∈ before, FitsField g.2 (members.get? g.1)) ∧
        checkField f (path ++ [name]) (members.get? name) = .error e := by
  induction fields with
  | nil =>
    rw [validateFields]
    refine iff_of_false (fun ok ↦ by cases ok) ?_
    rintro ⟨_ | _, _, _, _, ⟨⟩, -⟩
  | cons f fields ih =>
    obtain ⟨name, f⟩ := f
    have first : checkField f (path ++ [name]) (members.get? name) = .ok () ↔
        FitsField f (members.get? name) :=
      checkField_eq_ok_iff_fits fun _ ↦ validateAt_eq_ok_iff_fits _
    rw [validateFields_cons, bind_eq_error, ih]
    constructor
    · rintro (failed | ⟨_, fits, before, name', f', after, rfl, earlier, failed⟩)
      · exact ⟨[], name, f, fields, rfl, fun _ h ↦ absurd h List.not_mem_nil, failed⟩
      · exact ⟨(name, f) :: before, name', f', after, rfl,
          List.forall_mem_cons.2 ⟨first.1 fits, earlier⟩, failed⟩
    · rintro ⟨_ | ⟨_, before⟩, name', f', after, split, earlier, failed⟩ <;> cases split
      · exact .inl failed
      · obtain ⟨fits, earlier⟩ := List.forall_mem_cons.1 earlier
        exact .inr ⟨(), first.2 fits, before, name', f', after, rfl, earlier, failed⟩

/-- A value that fails at some place is refused for it. -/
theorem FailsAt.validateAt (h : FailsAt path s v e) : s.validateAt path v = .error e := by
  cases h with
  | missing d earlier required absent =>
    rw [Schema.validateAt, validateFields_eq_error_iff]
    exact ⟨_, _, _, _, rfl, earlier, checkField_eq_error_iff.2 (.inl ⟨absent, required, rfl⟩)⟩
  | mismatch expected found =>
    cases s with
    | scalar k d =>
      cases expected
      exact if_neg found
    | object fields d =>
      cases expected
      exact validateAt_object_of_ne found
    | unconstrained d => cases expected

/-- What is found where names lead to is found from where they start. -/
theorem Leads.validateAt {names : List String} {t : Schema} {u : Value} (h : Leads s v names t u)
    (failed : t.validateAt (path ++ names) u = .error e) : s.validateAt path v = .error e := by
  induction h generalizing path with
  | here => rwa [List.append_nil] at failed
  | @field _ _ name _ _ _ _ _ _ _ earlier present counts _ ih =>
    rw [List.append_cons] at failed
    rw [Schema.validateAt, validateFields_eq_error_iff]
    exact ⟨_, name, _, _, rfl, earlier,
      checkField_eq_error_iff.2 (.inr ⟨_, present, counts, ih failed⟩)⟩

/-- The violation that is found has names that lead to it. -/
theorem exists_leads (failed : s.validateAt path v = .error e) :
    ∃ names t u, Leads s v names t u ∧ FailsAt (path ++ names) t u e := by
  induction s using Schema.induction generalizing v path with
  | unconstrained d => cases failed
  | scalar k d =>
    rw [Schema.validateAt] at failed
    split at failed
    next => cases failed
    next found =>
      cases failed
      refine ⟨[], _, v, .here _ v, ?_⟩
      rw [List.append_nil]
      exact .mismatch rfl found
  | object fields d ih =>
    by_cases object : v.kind = .object
    · obtain ⟨members, rfl⟩ := Value.kind_eq_object.1 object
      rw [Schema.validateAt, validateFields_eq_error_iff] at failed
      obtain ⟨before, name, f, after, rfl, earlier, failed⟩ := failed
      rcases checkField_eq_error_iff.1 failed with ⟨absent, required, rfl⟩ |
        ⟨w, present, counts, failed⟩
      · refine ⟨[], _, _, .here _ _, ?_⟩
        rw [List.append_nil]
        exact .missing d earlier required absent
      · obtain ⟨names, t, u, leads, fails⟩ :=
          ih (name, f) (List.mem_append_right _ List.mem_cons_self) failed
        rw [← List.append_cons] at fails
        exact ⟨name :: names, t, u, .field d earlier present counts leads, fails⟩
    · rw [validateAt_object_of_ne object] at failed
      cases failed
      refine ⟨[], _, _, .here _ _, ?_⟩
      rw [List.append_nil]
      exact .mismatch rfl object

/-- The violation that is reported is the first one: names lead to it past what fits. -/
theorem validate_eq_error_iff :
    s.validate v = .error e ↔ ∃ names t u, Leads s v names t u ∧ FailsAt names t u e := by
  constructor
  · intro failed
    exact exists_leads failed
  · rintro ⟨names, t, u, leads, fails⟩
    exact leads.validateAt fails.validateAt

/-! ### Order and undeclared members -/

/-- What is declared for a member: the schema of the field of its name, and nothing where there is
no such field. -/
def declared (s : Schema) (name : String) : Schema :=
  match s.field? name with
  | some f => f.schema
  | none => .unconstrained none

/-- Whether a value becomes another when members are put in another order and members are added
that no field declares, in any of its objects. In what no schema is declared for, no member is
declared. -/
inductive Rearranged : Schema → Value → Value → Prop
  /-- Nothing is changed. -/
  | refl (s : Schema) (v : Value) : Rearranged s v v
  /-- One change comes after the other. -/
  | trans {s : Schema} {u v w : Value} (first : Rearranged s u v) (second : Rearranged s v w) :
    Rearranged s u w
  /-- The members of an object are put in another order. -/
  | reorder (s : Schema) {members members' : Table Value} (distinct : members.names.Nodup)
      (same : members.Perm members') : Rearranged s (.object members) (.object members')
  /-- A member is added that no field declares. -/
  | add {s : Schema} {name : String} (undeclared : s.field? name = none) (v : Value)
      (members : Table Value) : Rearranged s (.object members) (.object ((name, v) :: members))
  /-- The value of a member is changed. -/
  | member {s : Schema} {name : String} {v v' : Value} (inside : Rearranged (s.declared name) v v')
      (before after : Table Value) :
    Rearranged s (.object (before ++ (name, v) :: after)) (.object (before ++ (name, v') :: after))
  /-- An item of an array is changed. -/
  | item {s : Schema} {v v' : Value} (inside : Rearranged (.unconstrained none) v v')
      (before after : List Value) :
    Rearranged s (.array (before ++ v :: after)) (.array (before ++ v' :: after))

theorem Rearranged.kind_eq {v' : Value} (h : Rearranged s v v') : v'.kind = v.kind := by
  induction h with
  | refl | reorder | add | member | item => rfl
  | trans _ _ first second => exact second.trans first

/-- A value is checked by its kind and, if it is an object, by what it holds under the names of
fields. -/
theorem validateAt_congr {v' : Value} (kind : v'.kind = v.kind)
    (each : ∀ fields d, s = .object fields d → ∀ f ∈ fields,
      checkField f.2 (path ++ [f.1]) (v'.get? f.1) = checkField f.2 (path ++ [f.1]) (v.get? f.1)) :
    s.validateAt path v' = s.validateAt path v := by
  cases s with
  | unconstrained d => rw [validateAt, validateAt]
  | scalar k d => rw [validateAt, validateAt, kind]
  | object fields d =>
    by_cases object : v.kind = .object
    · obtain ⟨members, rfl⟩ := Value.kind_eq_object.1 object
      obtain ⟨members', rfl⟩ := Value.kind_eq_object.1 kind
      rw [validateAt, validateAt]
      exact validateFields_congr_check (each fields d rfl)
    · rw [validateAt_object_of_ne object, validateAt_object_of_ne (kind ▸ object), kind]

/-- A field that is declared is found under its name. -/
theorem field?_of_mem {fields : Table (Field Schema)} {d : Option String}
    (h : (Schema.object fields d).WellFormed) {f : String × Field Schema} (hf : f ∈ fields) :
    (Schema.object fields d).field? f.1 = some f.2 :=
  (Table.get?_eq_some_iff h.1).2 hf

theorem wellFormed_declared (h : s.WellFormed) (name : String) : (s.declared name).WellFormed := by
  rw [declared]
  split
  next f hf =>
    cases s with
    | scalar | unconstrained => cases hf
    | object fields d =>
      exact wellFormedFields_iff.1 h.2 _ (Table.mem_of_get? hf)
  next => trivial

/-- A field comes to the same for two values of one kind that its schema comes to the same for. -/
theorem checkField_congr {f : Field Schema} {w w' : Value} (kind : w'.kind = w.kind)
    (same : f.schema.validateAt path w' = f.schema.validateAt path w) :
    checkField f path (some w') = checkField f path (some w) := by
  rw [checkField, checkField, Field.seen_some, Field.seen_some, kind]
  by_cases idle : w.kind = .null ∧ f.required = false
  · rw [if_pos idle, if_pos idle]
  · rw [if_neg idle, if_neg idle]
    exact same

/-- Putting members in another order and adding undeclared ones makes no difference to what is
found. -/
theorem Rearranged.validateAt_eq {v' : Value} (h : Rearranged s v v') (wellFormed : s.WellFormed)
    (path : List String) : s.validateAt path v' = s.validateAt path v := by
  induction h generalizing path with
  | refl => rfl
  | trans _ _ first second => exact (second wellFormed path).trans (first wellFormed path)
  | reorder s distinct same =>
    refine validateAt_congr rfl fun fields d _ f _ ↦ ?_
    exact congrArg (checkField f.2 _) (Table.get?_of_perm distinct same f.1).symm
  | @add s name undeclared w members =>
    refine validateAt_congr rfl fun fields d object f hf ↦ ?_
    subst object
    have other : name ≠ f.1 := by
      rintro rfl
      exact nomatch undeclared.symm.trans (field?_of_mem wellFormed hf)
    exact congrArg (checkField f.2 _) ((Table.get?_cons ..).trans (if_neg other))
  | @member s name w w' inside before after ih =>
    refine validateAt_congr rfl fun fields d object f hf ↦ ?_
    subst object
    show checkField f.2 _ (Table.get? (before ++ (name, w') :: after) f.1) =
      checkField f.2 _ (Table.get? (before ++ (name, w) :: after) f.1)
    rw [Table.get?_append, Table.get?_append, Table.get?_cons, Table.get?_cons]
    by_cases named : name = f.1
    · rw [if_pos named, if_pos named]
      cases Table.get? before f.1 with
      | some earlier => rfl
      | none =>
        have schema : (Schema.object fields d).declared name = f.2.schema := by
          rw [named, declared, field?_of_mem wellFormed hf]
        have same := ih (wellFormed_declared wellFormed name) (path ++ [f.1])
        rw [schema] at same
        exact checkField_congr inside.kind_eq same
    · rw [if_neg named, if_neg named]
  | item => exact validateAt_congr rfl fun fields d _ f _ ↦ rfl

/-- The violation that is reported is the first one, and it is reported with the way to it. A value
is reported with a violation if and only if field names lead to the place of that violation, through
objects that object schemas are declared for and past fields that fit: there, either a required
field is absent, which is the last name on the way, or the value is not of the kind that is
expected. The way is spelled from the root, with a dot before each name. What is reported, if
anything, stays the same when members are put in another order and undeclared ones are added. -/
theorem validate_first (h : s.WellFormed) (v : Value) :
    (∀ e, s.validate v = .error e ↔
      ∃ names t u, Leads s v names t u ∧ FailsAt names t u e) ∧
    (∀ e, s.validate v = .error e →
      Violation.pathText e.path = "$" ++ String.join (e.path.map ("." ++ ·))) ∧
    ∀ v', Rearranged s v v' → s.validate v' = s.validate v :=
  ⟨fun _ ↦ validate_eq_error_iff, fun e _ ↦ Violation.pathText_eq e.path,
    fun _ same ↦ same.validateAt_eq h []⟩

/-- An owner, who has a name and may have a tag. -/
def owner : Schema :=
  .object [("tag", ⟨.scalar .string none, false⟩), ("name", ⟨.scalar .string none, true⟩)] none

/-- An adoption with an id and a note, which may have an owner. -/
def adoption : Schema :=
  .object [("id", ⟨.scalar .number none, true⟩), ("owner", ⟨owner, false⟩),
    ("note", ⟨.scalar .string none, true⟩)] none

/-- An adoption without a note is reported for its owner, who comes first and has no name; and so it
is when it is written down in another order, with more than is asked for. -/
theorem validate_first_adoption :
    adoption.validate (.object [("id", .number (.integer 1)),
        ("owner", .object [("tag", .null)])]) = .error (.missingField ["owner", "name"]) ∧
      Violation.pathText ["owner", "name"] = "$.owner.name" ∧
      adoption.validate (.object [("owner", .object [("age", .array []), ("tag", .null)]),
        ("id", .number (.integer 1))]) = .error (.missingField ["owner", "name"]) := by
  have wellFormed : adoption.WellFormed := by
    simp [adoption, owner, WellFormed, wellFormedFields_iff, Table.names]
  obtain ⟨first, spelled, same⟩ := validate_first wellFormed
    (.object [("id", .number (.integer 1)), ("owner", .object [("tag", .null)])])
  have id_ : ∀ g ∈ [("id", (⟨.scalar .number none, true⟩ : Field Schema))], FitsField g.2
      (Table.get? [("id", .number (.integer 1)), ("owner", .object [("tag", .null)])] g.1) :=
    List.forall_mem_singleton.2 (.value (.scalar none rfl))
  have tag : ∀ g ∈ [("tag", (⟨.scalar .string none, false⟩ : Field Schema))], FitsField g.2
      (Table.get? [("tag", .null)] g.1) :=
    List.forall_mem_singleton.2 (.null rfl)
  have reported := (first (.missingField ["owner", "name"])).2 ⟨["owner"], owner, _,
    @Leads.field _ _ _ _ none _ _ _ _ _ id_ rfl nofun (.here owner _),
    @FailsAt.missing _ _ [] _ _ none _ tag rfl rfl⟩
  refine ⟨reported, spelled _ reported, ?_⟩
  rw [← reported]
  refine same _ (.trans (.reorder adoption (by decide) (.swap _ _ [])) ?_)
  exact .member (.add rfl (.array []) [("tag", .null)]) [] _

end Schema

end Toolsmith
