import Toolsmith.Proofs.Compile.Example

/-!
# What an input schema is inferred from

An input schema is inferred in three passes over a request, each of which puts fields into the same
table. What comes of them can be told without the passes. First come the keys of the path variables,
then those of the query parameters that are no keys of path variables, each key where it occurs
first, and last the name of a raw body, unless it is a key. The field of a key is the one of the
last path variable of that key, or of the last query parameter where no path variable has it. The
field of a raw body has the shape that its text tells, and takes the place of any other field of its
name.

## Main statements

* `Compile.names_inputFields`: which fields an input schema has, in order.
* `Compile.inputSchema_fields`: an input schema, field by field.
-/

namespace Toolsmith.Compile

open Json (Value)
open Collection (Payload Variable pathPlaceholder queryPlaceholder)
open ScalarKind (guess)

/-- The fields of an input schema are those of the variables and that of a raw body, which comes
last where it is new. -/
theorem names_inputFields (p : Payload) :
    (inputFields p).names = p.address.pathKeys.eraseDups ++
      (p.address.queryKeys.filter (· ∉ p.address.pathKeys)).eraseDups ++
      if p.rawBody?.isSome = true ∧ bodyField ∉ p.address.pathKeys ∧
        bodyField ∉ p.address.queryKeys then [bodyField] else [] := by
  rw [inputFields, ← names_variableFields]
  cases p.rawBody? with
  | none => simp
  | some raw =>
    rw [Table.names_insert]
    simp only [mem_names_variableFields, Option.isSome_some, true_and, ← not_or]
    split
    next => rw [List.append_nil]
    next => rfl

/-- The schema of a raw body follows from its text: where that is an object, the body is to have its
members, each of the kind that is guessed from it, and else it may be anything. -/
theorem bodySchema_eq (raw : String) :
    (∀ members, Json.parse raw = .ok (.object members) →
      bodySchema raw = .object (members.map fun m ↦ (m.1, guessedField m.2)) none) ∧
    ((∀ members, Json.parse raw ≠ .ok (.object members)) →
      bodySchema raw = .unconstrained (some bodyDescription)) := by
  constructor
  · intro members parsed
    rw [bodySchema, parsed]
    exact likeExample_eq (Json.wellFormed_of_parse parsed).1
  · intro other
    rw [bodySchema]
    split
    next members parsed => exact absurd parsed (other members)
    next => rfl

/-- An input schema has a field for each key of a path variable, then for each other key of a query
parameter, in order of first occurrence, and then for a raw body, unless its name is one of them. A
field other than that of a raw body is the one of the last path variable of its name, or else of the
last query parameter. The field of a raw body is optional. It is an object with the members of the
text, all required, exactly if the text is an object, and else it may be anything. -/
theorem inputSchema_fields (p : Payload) :
    ∃ fields : Table (Field Schema), inputSchema p = .object fields none ∧
      fields.names = p.address.pathKeys.eraseDups ++
        (p.address.queryKeys.filter (· ∉ p.address.pathKeys)).eraseDups ++
        (if p.rawBody?.isSome = true ∧ bodyField ∉ p.address.pathKeys ∧
          bodyField ∉ p.address.queryKeys then [bodyField] else []) ∧
      (∀ name, ¬ (p.rawBody?.isSome = true ∧ name = bodyField) →
        fields.get? name =
          ((lastOf? pathPlaceholder p.address.pathVariables name).map pathField).or
            ((lastOf? queryPlaceholder p.address.query name).map queryField)) ∧
      ∀ raw, p.rawBody? = some raw → ∃ s, fields.get? bodyField = some ⟨s, false⟩ ∧
        (∀ members, Json.parse raw = .ok (.object members) →
          s = .object (members.map fun m ↦ (m.1, ⟨.scalar (guess m.2) none, true⟩)) none) ∧
        ((∀ members, Json.parse raw ≠ .ok (.object members)) →
          s = .unconstrained (some bodyDescription)) := by
  refine ⟨inputFields p, inputSchema_eq_object p, names_inputFields p, fun name other ↦ ?_,
    fun raw sent ↦ ⟨bodySchema raw, ?_, bodySchema_eq raw⟩⟩
  · rw [get?_inputFields p other, get?_variableFields]
  · rw [inputFields, sent]
    exact (Table.get?_insert _ _ _ _).trans (if_pos rfl)

/-- A request whose variables share their keys or have none, and one of which is called like the
body that is sent. -/
def crowded : Payload where
  address :=
    { pathVariables :=
        [{ key := some "id", value := some (.string "7") }, { key := some "" },
          { key := some "id", value := some (.bool true), description := some "The id" }]
      query :=
        [{ key := some "page", description := some "" }, { key := some "id" },
          { key := some "body" }, { value := some .null },
          { key := some "page", value := some (.string " 1e3 ") }] }
  body := some { raw := some repeated }

/-- The id has its first place and its last example, a query parameter gives way to it, and the body
takes the place of the query parameter of its name. -/
theorem inputSchema_fields_crowded :
    ∃ fields : Table (Field Schema), inputSchema crowded = .object fields none ∧
      fields.names = ["id", "systemVariable", "page", "body", "systemquery"] ∧
      fields.get? "id" = some ⟨.scalar .boolean (some "The id"), true⟩ ∧
      fields.get? "page" = some ⟨.scalar .number (some "Query parameter: page"), false⟩ ∧
      ∃ fields', fields.get? "body" = some ⟨.object fields' none, false⟩ ∧
        Table.names fields' = ["id", "name"] := by
  obtain ⟨fields, object, names, others, body⟩ := inputSchema_fields crowded
  obtain ⟨s, held, like, -⟩ := body repeated rfl
  have read : ((Json.parse repeated).toOption.bind Value.object?).map Table.names =
      some ["id", "name"] := by decide +kernel
  obtain ⟨members, parsed, same⟩ := exists_of_object? Table.names read
  refine ⟨fields, object, names, ?_, ?_, _, held.trans (by rw [like members parsed]), ?_⟩
  · rw [others "id" (by decide)]
    rfl
  · rw [others "page" (by decide)]
    rfl
  · rw [← same, Table.names, List.map_map]
    rfl

end Toolsmith.Compile
