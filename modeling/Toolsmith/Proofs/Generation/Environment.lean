import Toolsmith.Generation.Template
import Toolsmith.Proofs.Compile.Contract
import Toolsmith.Proofs.Files.Walk
import Toolsmith.Proofs.Tool.Slots

/-!
# Variables from the environment

The variables that a server tells its user to set are the slots of its tools that are no path
parameters. A slot that is one is filled by every valid input, provided that the input schema has
a required scalar field for it. So with the variables set no slot goes without a value; and the
tool that a variable is for fails without it, whatever the input.

## Main statements

* `Schema.exists_parameterText`: what a valid value has for a required scalar field.
* `Generation.environmentNames_exact`: the listed variables suffice, and each of them is needed.
-/

namespace Toolsmith

open Json (Value)

variable {environment : Table String} {input : Value} {name slot : String}

/-! ### Valid inputs -/

namespace Schema

/-- A valid value has a text for each required scalar field. -/
theorem exists_parameterText {s : Schema} (h : IsScalarField true (s.field? name))
    (valid : s.validate input = .ok ()) :
    ∃ t, (input.get? name).bind Value.parameterText? = some t := by
  obtain ⟨kind, d, hf⟩ := h
  cases s with
  | scalar | unconstrained => cases hf
  | object fields d' =>
    cases input with
    | null | bool | number | string | array => cases valid
    | object members =>
      obtain ⟨v, hv, scalar⟩ := exists_validateAt_of_validateFields hf valid
      -- No scalar is null.
      have ne : v ≠ .null := by
        rintro rfl
        cases kind <;> cases scalar
      obtain ⟨t, ht⟩ := Value.exists_parameterText ne
      refine ⟨t, ?_⟩
      show (Table.get? members name).bind _ = _
      rw [hv]
      exact ht

end Schema

/-! ### The variables of tools -/

namespace Generation

variable {artifacts : List Artifact} {a : Artifact}

theorem mem_freeSlots :
    slot ∈ freeSlots a ↔ slot ∈ a.handler.slots ∧ slot ∉ a.handler.pathParams := by
  rw [freeSlots, List.mem_filter]
  simp

theorem mem_environmentNames :
    name ∈ environmentNames artifacts ↔ ∃ a ∈ artifacts, name ∈ freeSlots a := by
  rw [environmentNames, Text.mem_sortDistinct, List.mem_flatMap]

/-- With every free slot of a tool set, a valid input leaves no slot without a value. -/
theorem url_ne_unresolved
    (params : ∀ p ∈ a.handler.pathParams, Schema.IsScalarField true (a.inputSchema.field? p))
    (set : ∀ name ∈ freeSlots a, environment.get? name ≠ none)
    (valid : a.inputSchema.validate input = .ok ()) (slot : String) :
    a.handler.url environment input ≠ .error (.unresolvedPlaceholder slot) := by
  rw [Ne, Handler.url_eq_unresolved_iff, Handler.fill_eq_error_iff]
  intro found
  have listed : slot ∈ a.handler.slots := List.mem_of_find?_eq_some found
  have missing : a.handler.slotText? environment input slot = none := by
    simpa using List.find?_some found
  by_cases param : slot ∈ a.handler.pathParams
  · obtain ⟨text, given⟩ := Schema.exists_parameterText (params slot param) valid
    rw [Handler.slotText?_of_mem environment param given] at missing
    cases missing
  · rw [Handler.slotText?_of_notMem param, Option.map_eq_none_iff] at missing
    exact set slot (mem_freeSlots.2 ⟨listed, param⟩) missing

/-- Without a variable that is a free slot of a tool, some slot has no value. -/
theorem exists_url_eq_unresolved (free : name ∈ freeSlots a)
    (missing : environment.get? name = none) (input : Value) :
    ∃ slot, a.handler.url environment input = .error (.unresolvedPlaceholder slot) := by
  obtain ⟨listed, other⟩ := mem_freeSlots.1 free
  have unfilled : (a.handler.slotText? environment input name).isNone = true := by
    rw [Handler.slotText?_of_notMem other, missing]
    rfl
  have found : (a.handler.slots.find? fun s ↦
      (a.handler.slotText? environment input s).isNone).isSome = true :=
    List.find?_isSome.2 ⟨name, listed, unfilled⟩
  obtain ⟨slot, first⟩ := Option.isSome_iff_exists.1 found
  exact ⟨slot, Handler.url_eq_unresolved_iff.2 ((Handler.fill_eq_error_iff _ _ _ _).2 first)⟩

/-- The listed variables suffice, and each of them is needed. Where every path parameter of the
tools is a required scalar field, no valid input of a tool leaves a slot without a value once all
of the variables are set; and for each of the variables there is a tool that has such a slot on
every input without it. -/
theorem environmentNames_exact (artifacts : List Artifact)
    (params : ∀ a ∈ artifacts, ∀ p ∈ a.handler.pathParams,
      Schema.IsScalarField true (a.inputSchema.field? p)) :
    (∀ environment : Table String,
      (∀ name ∈ environmentNames artifacts, environment.get? name ≠ none) →
        ∀ a ∈ artifacts, ∀ input, a.inputSchema.validate input = .ok () →
          ∀ slot, a.handler.url environment input ≠ .error (.unresolvedPlaceholder slot)) ∧
      ∀ name ∈ environmentNames artifacts, ∃ a ∈ artifacts,
        ∀ environment input, Table.get? environment name = none →
          ∃ slot, a.handler.url environment input = .error (.unresolvedPlaceholder slot) := by
  constructor
  · intro environment set a ha input valid
    refine url_ne_unresolved (params a ha) (fun name free ↦ set name ?_) valid
    exact mem_environmentNames.2 ⟨a, ha, free⟩
  · intro name listed
    obtain ⟨a, ha, free⟩ := mem_environmentNames.1 listed
    exact ⟨a, ha, fun environment input missing ↦ exists_url_eq_unresolved free missing input⟩

/-- Two tools that both have a slot for an id: the first takes it from its input, and the second
one from the environment. -/
def idTools : List Artifact :=
  let tool (name template : String) (params : List String) : Artifact :=
    { name, title := name, description := name
      inputSchema := .object (params.map fun p ↦ (p, ⟨.scalar .number none, true⟩)) none
      outputSchema := .unconstrained none
      handler := { method := "GET", urlTemplate := template, pathParams := params } }
  [tool "pet" "\x7bhost\x7d/pets/\x7bid\x7d" ["id"],
    tool "owner" "\x7bhost\x7d/\x7bid\x7d/owner\x7b" []]

/-- The second tool needs the id as a variable, although it is a path parameter of the first. -/
theorem environmentNames_exact_idTools :
    (∀ a ∈ idTools, ∀ slot,
        a.handler.url [("host", "http://pets"), ("id", "7")]
          (.object [("id", .number (.integer 1))]) ≠ .error (.unresolvedPlaceholder slot)) ∧
      ∃ a ∈ idTools, ∀ environment input, Table.get? environment "id" = none →
        ∃ slot, a.handler.url environment input = .error (.unresolvedPlaceholder slot) := by
  have names : environmentNames idTools = ["host", "id"] := by decide +kernel
  have params : ∀ a ∈ idTools, ∀ p ∈ a.handler.pathParams,
      Schema.IsScalarField true (a.inputSchema.field? p) := by
    refine List.forall_mem_cons.2 ⟨?_, List.forall_mem_singleton.2 ?_⟩
    · exact List.forall_mem_singleton.2 ⟨.number, none, rfl⟩
    · exact fun p hp ↦ absurd hp List.not_mem_nil
  have valid : ∀ a ∈ idTools,
      a.inputSchema.validate (.object [("id", .number (.integer 1))]) = .ok () := by
    exact List.forall_mem_cons.2 ⟨rfl, List.forall_mem_singleton.2 rfl⟩
  obtain ⟨suffice, needed⟩ := environmentNames_exact idTools params
  rw [names] at suffice needed
  exact ⟨fun a ha ↦ suffice _ (by decide) a ha _ (valid a ha), needed "id" (by decide)⟩

end Generation

end Toolsmith
