import Toolsmith.Proofs.Compile.Contract
import Toolsmith.Proofs.Json.Distinct
import Toolsmith.Proofs.Schema.Guess

/-!
# Schemas and their own examples

The schema of objects like an example asks for the members that the example has, each of the kind
that is guessed from it. What is guessed need not be what the example has, so that the example
itself may be turned away: it is valid if and only if each of its members has the kind that is
guessed from it.

## Main definitions

* `Compile.Mirrors`: the fields ask for the members of an example, and allow those that have the
  kind that is guessed from them.

## Main statements

* `Compile.likeExample_eq`: the fields of objects like an example.
* `Compile.mirrors_example`: the schemas that follow from the text of an object.
-/

namespace Toolsmith.Compile

open Json (Value)
open Collection (Example Payload)
open ScalarKind (FitsGuess guess)
open Schema (Builder)

variable {members : Table Value}

/-- A required field of the kind that is guessed from a value. -/
def guessedField (v : Value) : Field Schema :=
  ⟨.scalar (guess v) none, true⟩

/-- Members of new names add a field each. -/
theorem foldl_scalar (b : Builder) (distinct : (b.fields.names ++ members.names).Nodup) :
    members.foldl (fun b e ↦ b.scalar e.1 (.guess e.2) none true) b =
      { b with fields := b.fields ++ members.map fun m ↦ (m.1, guessedField m.2) } := by
  induction members generalizing b with
  | nil => rw [List.foldl_nil, List.map_nil, List.append_nil]
  | cons m members ih =>
    have next : ((b.fields ++ [(m.1, guessedField m.2)]).names ++ Table.names members).Nodup := by
      rwa [Table.names_append, List.append_assoc]
    have new : m.1 ∉ b.fields.names := by
      intro old
      exact (List.nodup_append.1 distinct).2.2 m.1 old m.1 List.mem_cons_self rfl
    have added : b.scalar m.1 (.guess m.2) none true =
        { b with fields := b.fields ++ [(m.1, guessedField m.2)] } :=
      congrArg (Builder.mk · b.description) (Table.insert_of_notMem new _)
    rw [List.foldl_cons, added, ih _ next, List.append_assoc]
    rfl

/-- The fields of objects like an example are those of its members, in their order. -/
theorem likeExample_eq (distinct : members.names.Nodup) :
    likeExample members = .object (members.map fun m ↦ (m.1, guessedField m.2)) none := by
  rw [likeExample, foldl_scalar {} distinct]
  rfl

/-- Whether fields ask for the members of an example, in their order, and allow all of them exactly
if each has the kind that is guessed from it. -/
structure Mirrors (fields : Table (Field Schema)) (members : Table Value) : Prop where
  /-- The names are those of the members. -/
  names : fields.names = members.names
  /-- No field is optional. -/
  required : ∀ f ∈ fields, f.2.required = true
  /-- The example is valid exactly if its members have the kinds that are guessed from them. -/
  valid : (Schema.object fields none).validate (.object members) = .ok () ↔
    ∀ m ∈ members, FitsGuess m.2

theorem allows_guessedField {v : Value} {path : List String} :
    Schema.Allows (guessedField v) path (some v) ↔ FitsGuess v := by
  rw [Schema.Allows, guessedField, Schema.validateAt_scalar_eq_ok_iff,
    ScalarKind.kind_eq_guess_iff]
  exact or_iff_right fun null ↦ Bool.noConfusion null.2

theorem exists_mirrors (distinct : members.names.Nodup) :
    ∃ fields, likeExample members = .object fields none ∧ Mirrors fields members := by
  refine ⟨_, likeExample_eq distinct, ?_, List.forall_mem_map.2 fun _ _ ↦ rfl, ?_⟩
  · rw [Table.names, List.map_map]
    rfl
  · have held (m : String × Value) (hm : m ∈ members) : members.get? m.1 = some m.2 :=
      (Table.get?_eq_some_iff distinct).2 hm
    rw [Schema.validate, Schema.validateAt, Schema.validateFields_eq_ok_iff, List.forall_mem_map]
    refine forall₂_congr fun m hm ↦ ?_
    rw [held m hm]
    exact allows_guessedField

/-- The schema that follows from the text of an object, where it is the body of a request or the
response that the output schema follows from, has the members of the object as its fields, all of
them required. The object is valid for it if and only if each of its members is a number, a truth
value, or a text that spells neither. -/
theorem mirrors_example {text : String} (parsed : Json.parse text = .ok (.object members)) :
    (∀ p : Payload, p.rawBody? = some text → ∃ fields,
      (inputSchema p).field? bodyField = some ⟨.object fields none, false⟩ ∧
        Mirrors fields members) ∧
    ∀ (responses : List Example) (e : Example), selectResponse responses = some e →
      e.body = some text → members ≠ [] → ∃ fields,
        outputSchema responses = .object fields none ∧ Mirrors fields members := by
  obtain ⟨fields, inferred, mirrors⟩ := exists_mirrors (Json.wellFormed_of_parse parsed).1
  refine ⟨fun p raw ↦ ⟨fields, ?_, mirrors⟩, fun responses e selected body some ↦
    ⟨fields, ?_, mirrors⟩⟩
  · have shape : bodySchema text = .object fields none := by
      rw [bodySchema, parsed, ← inferred]
    rw [inputSchema_eq, raw]
    show Table.get? (Table.insert _ bodyField _) bodyField = _
    rw [Table.get?_insert, if_pos rfl, shape]
  · rw [outputSchema, selected, Option.bind_some, body, Option.map_some, parsed]
    cases members with
    | nil => exact absurd rfl some
    | cons m ms => exact inferred

/-- A text is read as an object of which something holds, if evaluation tells so. -/
theorem exists_of_object? {α : Type} {text : String} (f : Table Value → α) {a : α}
    (h : ((Json.parse text).toOption.bind Value.object?).map f = some a) :
    ∃ members, Json.parse text = .ok (.object members) ∧ f members = a := by
  obtain ⟨members, object, rfl⟩ := Option.map_eq_some_iff.1 h
  obtain ⟨v, read, object⟩ := Option.bind_eq_some_iff.1 object
  cases v <;> cases object
  exact ⟨members, Json.toOption_eq_some.1 read, rfl⟩

/-- An object with one member twice, and with a text that spells a number beyond all bounds. -/
def repeated : String :=
  "\x7b\"id\": 1, \"name\": \"1e999\", \"id\": true\x7d"

/-- An object with a text that spells a number. -/
def spelled : String :=
  "\x7b\"count\": \" 1.5e3 \"\x7d"

/-- A member that is there twice has its first place and its last value, and the object is valid for
the schema of its own. An object with a number that is spelled by a text is not. -/
theorem mirrors_example_repeated :
    (∃ members fields, Json.parse repeated = .ok (.object members) ∧
      (inputSchema { body := some { raw := some repeated } }).field? "body" =
        some ⟨.object fields none, false⟩ ∧
      Table.names fields = ["id", "name"] ∧
      (Schema.object fields none).validate (.object members) = .ok ()) ∧
    ∃ members fields, Json.parse spelled = .ok (.object members) ∧
      outputSchema [{ code := some 404 }, { code := some 201, body := some spelled }] =
        .object fields none ∧
      Table.names fields = ["count"] ∧
      (Schema.object fields none).validate (.object members) ≠ .ok () := by
  let shape (members : Table Value) := (members.names, decide (∀ m ∈ members, FitsGuess m.2))
  constructor
  · have read : ((Json.parse repeated).toOption.bind Value.object?).map shape =
        some (["id", "name"], true) := by decide +kernel
    obtain ⟨members, parsed, same⟩ := exists_of_object? shape read
    obtain ⟨names, fits⟩ := Prod.mk.inj same
    obtain ⟨fields, field, mirrors⟩ :=
      (mirrors_example parsed).1 { body := some { raw := some repeated } } rfl
    exact ⟨members, fields, parsed, field, mirrors.names.trans names,
      mirrors.valid.2 (of_decide_eq_true fits)⟩
  · have read : ((Json.parse spelled).toOption.bind Value.object?).map shape =
        some (["count"], false) := by decide +kernel
    obtain ⟨members, parsed, same⟩ := exists_of_object? shape read
    obtain ⟨names, misfits⟩ := Prod.mk.inj same
    have held : members ≠ [] := by
      rintro rfl
      cases names
    obtain ⟨fields, schema, mirrors⟩ := (mirrors_example parsed).2
      [{ code := some 404 }, { code := some 201, body := some spelled }] _ rfl rfl held
    exact ⟨members, fields, parsed, schema, mirrors.names.trans names,
      fun valid ↦ of_decide_eq_false misfits (mirrors.valid.1 valid)⟩

end Toolsmith.Compile
