import Toolsmith.Proofs.Compile.Schemas

/-!
# The fields of variables

The fields of path variables and query parameters are put into one table, one variable after the
other. A key that comes up again keeps the place of its field and gets another field, so where a
field stands is decided by the first variable of its key, and what it is by the last one. A query
parameter with the key of a path variable is passed over, whichever comes first.

## Main definitions

* `Compile.pathField`, `Compile.queryField`: the field of a variable.
* `Compile.lastOf?`: the last variable of a key.

## Main statements

* `Compile.names_variableFields`: which fields there are, in order.
* `Compile.get?_variableFields`: what they are.
-/

namespace Toolsmith.Compile

open Collection (Payload Variable pathPlaceholder queryPlaceholder)
open Schema (Builder)

/-! ### Fields -/

/-- The description of the field of a variable: its own one, unless that is missing or empty. -/
def descriptionOr (v : Variable) (fallback : String) : String :=
  (v.description.filter (· ≠ "")).getD fallback

/-- The field of a path variable. -/
def pathField (v : Variable) : Field Schema where
  schema := .scalar (.guess? v.value)
    (some (descriptionOr v ("Path parameter: " ++ v.keyOr pathPlaceholder)))
  required := true

/-- The field of a query parameter. -/
def queryField (v : Variable) : Field Schema where
  schema := .scalar (.guess? v.value)
    (some (descriptionOr v ("Query parameter: " ++ v.keyOr queryPlaceholder)))
  required := false

/-- The last variable of a key, where variables without a key have the one of a placeholder. -/
def lastOf? (placeholder : String) (vs : List Variable) (key : String) : Option Variable :=
  (vs.filter (·.keyOr placeholder = key)).getLast?

theorem lastOf?_eq_none_iff {placeholder : String} {vs : List Variable} {key : String} :
    lastOf? placeholder vs key = none ↔ key ∉ vs.map (·.keyOr placeholder) := by
  rw [lastOf?, List.getLast?_eq_none_iff, List.filter_eq_nil_iff, List.mem_map, not_exists]
  simp only [decide_eq_true_eq, not_and]

theorem exists_lastOf? {placeholder : String} {vs : List Variable} {key : String}
    (h : key ∈ vs.map (·.keyOr placeholder)) : ∃ v, lastOf? placeholder vs key = some v :=
  Option.ne_none_iff_exists'.1 fun none ↦ lastOf?_eq_none_iff.1 none h

theorem describe_eq (v : Variable) (fallback : String) :
    describe v fallback = descriptionOr v fallback := by
  rw [describe, descriptionOr]
  cases v.description with
  | none => rfl
  | some d =>
    rw [Option.filter_some]
    by_cases empty : d = "" <;> simp [empty]

/-! ### One variable after the other -/

/-- A field is put under a key for each of several variables. -/
def insertFields (key : Variable → String) (field : Variable → Field Schema)
    (t : Table (Field Schema)) (vs : List Variable) : Table (Field Schema) :=
  vs.foldl (fun t v ↦ t.insert (key v) (field v)) t

/-- Path variables are inserted one after the other. -/
theorem foldl_addPathField (b : Builder) (vs : List Variable) :
    vs.foldl addPathField b =
      { b with fields := insertFields (·.keyOr pathPlaceholder) pathField b.fields vs } := by
  induction vs generalizing b with
  | nil => rfl
  | cons v vs ih =>
    have step : addPathField b v =
        { b with fields := b.fields.insert (v.keyOr pathPlaceholder) (pathField v) } := by
      rw [addPathField, describe_eq]
      rfl
    rw [List.foldl_cons, ih, step]
    rfl

/-- So are those query parameters that no path variable hides. -/
theorem foldl_addQueryField (pathKeys : List String) (b : Builder) (vs : List Variable) :
    vs.foldl (addQueryField pathKeys) b =
      { b with
        fields := insertFields (·.keyOr queryPlaceholder) queryField b.fields
          (vs.filter (·.keyOr queryPlaceholder ∉ pathKeys)) } := by
  induction vs generalizing b with
  | nil => rfl
  | cons v vs ih =>
    rw [List.foldl_cons, ih, addQueryField]
    by_cases taken : v.keyOr queryPlaceholder ∈ pathKeys
    · rw [if_pos (List.contains_iff_mem.2 taken), List.filter_cons_of_neg (by simp [taken])]
    · rw [if_neg fun h ↦ taken (List.contains_iff_mem.1 h),
        List.filter_cons_of_pos (by simp [taken]), describe_eq]
      rfl

variable (p : Payload)

theorem variableFields_eq :
    variableFields p =
      { fields := insertFields (·.keyOr queryPlaceholder) queryField
          (insertFields (·.keyOr pathPlaceholder) pathField [] p.address.pathVariables)
          (p.address.query.filter (·.keyOr queryPlaceholder ∉ p.address.pathKeys)) } := by
  rw [variableFields, foldl_addPathField, foldl_addQueryField]

/-- The fields are those of the path variables, and then those of the query parameters whose keys
are not taken, each in order of first occurrence. -/
theorem names_variableFields :
    (variableFields p).fields.names = p.address.pathKeys.eraseDups ++
      (p.address.queryKeys.filter (· ∉ p.address.pathKeys)).eraseDups := by
  have path : Table.names
      (insertFields (·.keyOr pathPlaceholder) pathField [] p.address.pathVariables) =
        p.address.pathKeys.eraseDups := by
    rw [insertFields, Table.names_foldl_insert]
    simp [Collection.Address.pathKeys]
  have untaken : (p.address.query.filter (·.keyOr queryPlaceholder ∉ p.address.pathKeys)).map
      (·.keyOr queryPlaceholder) = p.address.queryKeys.filter (· ∉ p.address.pathKeys) := by
    rw [Collection.Address.queryKeys, List.filter_map]
    rfl
  have new : (p.address.queryKeys.filter (· ∉ p.address.pathKeys)).filter
      (· ∉ p.address.pathKeys.eraseDups) = p.address.queryKeys.filter (· ∉ p.address.pathKeys) :=
    List.filter_eq_self.2 fun k hk ↦ by simpa using (List.mem_filter.1 hk).2
  rw [variableFields_eq, insertFields, Table.names_foldl_insert, path, untaken, new]

/-- A field is the one of the last path variable of its name, or of the last query parameter where
there is no such path variable. -/
theorem get?_variableFields (name : String) :
    (variableFields p).fields.get? name =
      ((lastOf? pathPlaceholder p.address.pathVariables name).map pathField).or
        ((lastOf? queryPlaceholder p.address.query name).map queryField) := by
  have path : Table.get?
      (insertFields (·.keyOr pathPlaceholder) pathField [] p.address.pathVariables) name =
        (lastOf? pathPlaceholder p.address.pathVariables name).map pathField := by
    rw [insertFields, Table.get?_foldl_insert, Table.get?_nil, Option.or_none, lastOf?]
  rw [variableFields_eq, insertFields, Table.get?_foldl_insert, path, List.filter_filter]
  by_cases taken : name ∈ p.address.pathKeys
  · have passed : p.address.query.filter (fun v ↦ decide (v.keyOr queryPlaceholder = name) &&
        decide (v.keyOr queryPlaceholder ∉ p.address.pathKeys)) = [] := by
      refine List.filter_eq_nil_iff.2 fun v _ ↦ ?_
      simp +contextual [taken]
    obtain ⟨v, hv⟩ := exists_lastOf? taken
    rw [passed, hv]
    rfl
  · have none : lastOf? pathPlaceholder p.address.pathVariables name = none :=
      lastOf?_eq_none_iff.2 taken
    have kept : p.address.query.filter (fun v ↦ decide (v.keyOr queryPlaceholder = name) &&
        decide (v.keyOr queryPlaceholder ∉ p.address.pathKeys)) =
        p.address.query.filter (·.keyOr queryPlaceholder = name) := by
      refine List.filter_congr fun v _ ↦ ?_
      by_cases named : v.keyOr queryPlaceholder = name <;> simp [named, taken]
    rw [kept, none, Option.map_none, Option.or_none, Option.none_or]
    rfl

end Toolsmith.Compile
