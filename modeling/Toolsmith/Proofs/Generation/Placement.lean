import Toolsmith.Proofs.Compile.Schemas
import Toolsmith.Proofs.Generation.Job
import Toolsmith.Proofs.Generation.Naming
import Toolsmith.Proofs.Generation.Preorder
import Toolsmith.Proofs.Naming

/-!
# The tools of a walk

Which tools a walk makes, and where it puts them, does not depend on the files: it follows from the
requests in their order, from the names that are resolved for them one after the other, and from
the policy for equal identifiers. A tool belongs to the walk, not to a path, so the same tools
are made wherever the walk starts.

## Main definitions

* `Generation.Placement`: a tool with the request that it is of, and where it is put.
* `Generation.Walker.Places`: the placements that requests lead to.

## Main statements

* `Places.map_visit`, `Places.compiled`: one tool for each request, made of it.
* `Places.settled`: how identifiers are settled.
* `Places.nodup_identifiers`: numbered identifiers are distinct.
* `Places.eq_of_places`: the placements follow from the requests and the augmentor.
-/

namespace Toolsmith.Generation

open Collection (Request)

/-! ### Sound tools -/

/-- A tool that can be read back from its file, which has a name. -/
structure Sound (a : Artifact) : Prop where
  /-- The tables in it hold each name once. -/
  wellFormed : a.WellFormed
  /-- It is not nested deeper than the reader goes. -/
  shallow : a.toJson.depth ≤ Json.maxDepth
  /-- It has a name. -/
  ne_empty : a.name ≠ ""

/-- Under another name a compiled tool is as sound as before. -/
theorem sound_compiled {r : Request} {n : Naming} {a : Artifact}
    (h : Compile.artifact? r n = some a) {name : String} (ne : name ≠ "") :
    Sound { a with name } := by
  have renamed : ({ a with name } : Artifact).toJson.depth = a.toJson.depth := by
    simp only [Artifact.toJson, Json.Value.depth, Json.Value.depthMembers]
  have whole := Compile.wellFormed_artifact? h
  refine ⟨⟨whole.input, whole.output, whole.headers⟩, ?_, ne⟩
  rw [renamed]
  exact Nat.le_trans (Compile.depth_artifact?_le h) (by decide)

theorem name_compiled {r : Request} {n : Naming} {a : Artifact}
    (h : Compile.artifact? r n = some a) : a.name = n.identifier := by
  obtain ⟨p, -, rfl⟩ := Compile.artifact?_eq_some h
  rfl

theorem fileName_injective {a b : Artifact} (h : a.fileName = b.fileName) : a.name = b.name := by
  have chars := congrArg String.toList h
  simp only [Artifact.fileName, String.toList_append, List.append_assoc] at chars
  exact String.toList_inj.1 (List.append_cancel_right chars)

/-! ### Placements -/

/-- A tool that a walk made, with what it was made of. -/
structure Placement where
  /-- The request. -/
  request : Request
  /-- The directory names of the folders that it is in. -/
  folders : List String
  /-- The names that were resolved for it. -/
  naming : Naming
  /-- The tool. -/
  artifact : Artifact

namespace Placement

/-- The request with its folders. -/
def visit (p : Placement) : Request × List String :=
  (p.request, p.folders)

/-- The identifier that the tool got in the end. -/
def identifier (p : Placement) : String :=
  p.artifact.name

/-- The names that lead to the file of the tool. -/
def names (p : Placement) : List String :=
  p.folders ++ [p.artifact.fileName]

/-- The file of the tool in a walk from a directory. -/
def file (root : Path) (p : Placement) : Written where
  path := root.descend p.names
  artifact := p.artifact

theorem path_file (root : Path) (p : Placement) :
    (p.file root).path = (root.descend p.folders).child p.artifact.fileName :=
  (root.descend_child p.folders _).symm

/-- Tools of distinct identifiers have distinct files. -/
theorem identifier_eq_of_path_eq {root : Path} {p q : Placement}
    (h : (p.file root).path = (q.file root).path) : p.identifier = q.identifier := by
  rw [path_file, path_file] at h
  exact fileName_injective (Path.child_injective _ h)

end Placement

namespace Walker

variable {σ : Type}

/-- The tools that requests lead to, one after the other, with the identifiers in use and the state
of the augmentor before. The names of each request are resolved in the state that the one before
left behind, and the identifier is settled among those in use. -/
inductive Places (walker : Walker σ) :
    List String → σ → List (Request × List String) → List Placement → σ → Prop
  /-- No requests lead to no tools. -/
  | nil {used : List String} {service : σ} : Places walker used service [] [] service
  /-- A request leads to the tool that it is compiled to under the names resolved for it. -/
  | cons {used : List String} {service mid service' : σ} {r : Request} {folders : List String}
      {rest : List (Request × List String)} {naming : Naming} {a : Artifact}
      {placed : List Placement}
      (resolved : walker.resolver.resolve r service = (.ok naming, mid))
      (compiled : Compile.artifact? r naming = some a)
      (later : Places walker (settle walker.collision used a.name :: used) mid rest placed
        service') :
      Places walker used service ((r, folders) :: rest)
        ({ request := r, folders, naming,
            artifact := { a with name := settle walker.collision used a.name } } :: placed)
        service'

namespace Places

variable {walker : Walker σ} {used : List String} {service service' : σ}
  {requests : List (Request × List String)} {placed : List Placement}

/-- There is one tool for each request, in their order. -/
theorem map_visit (h : walker.Places used service requests placed service') :
    placed.map (·.visit) = requests := by
  induction h with
  | nil => rfl
  | cons _ _ _ ih => rw [List.map_cons, ih]; rfl

theorem length_eq (h : walker.Places used service requests placed service') :
    placed.length = requests.length := by
  rw [← h.map_visit, List.length_map]

/-- Each tool is the one that its request is compiled to, but for the identifier. -/
theorem compiled (h : walker.Places used service requests placed service') :
    ∀ p ∈ placed, Compile.artifact? p.request p.naming =
      some { p.artifact with name := p.naming.identifier } := by
  induction h with
  | nil => exact fun _ hp ↦ absurd hp List.not_mem_nil
  | cons _ compiled _ ih =>
    refine List.forall_mem_cons.2 ⟨?_, ih⟩
    rw [compiled, ← name_compiled compiled]

theorem sound (h : walker.Places used service requests placed service') :
    ∀ p ∈ placed, Sound p.artifact := by
  induction h with
  | nil => exact fun _ hp ↦ absurd hp List.not_mem_nil
  | @cons used _ _ _ _ _ _ _ _ _ resolved compiled _ ih =>
    refine List.forall_mem_cons.2 ⟨sound_compiled compiled ?_, ih⟩
    rw [name_compiled compiled]
    exact settle_ne_empty used walker.collision (Naming.Resolver.isIdentifier resolved).ne_empty

/-- The identifier of each tool is settled among those of the tools before it. -/
theorem settled (h : walker.Places used service requests placed service')
    {before after : List Placement} {p : Placement} (split : placed = before ++ p :: after) :
    p.identifier = settle walker.collision ((before.map (·.identifier)).reverse ++ used)
      p.naming.identifier := by
  induction h generalizing before with
  | nil => cases before <;> cases split
  | cons _ compiled _ ih =>
    cases before with
    | nil =>
      obtain ⟨rfl, -⟩ := List.cons.inj split
      rw [← name_compiled compiled]
      rfl
    | cons q before =>
      obtain ⟨rfl, rest⟩ := List.cons.inj split
      rw [ih rest, List.map_cons, List.reverse_cons, List.append_assoc]
      rfl

/-- Numbered identifiers are distinct, and none of them was in use. -/
theorem nodup_identifiers (h : walker.Places used service requests placed service')
    (numbers : walker.collision = .suffix) :
    (placed.map (·.identifier)).Nodup ∧ ∀ p ∈ placed, p.identifier ∉ used := by
  induction h with
  | nil => exact ⟨List.nodup_nil, fun _ hp ↦ absurd hp List.not_mem_nil⟩
  | @cons used _ _ _ _ _ _ _ a _ _ _ _ ih =>
    obtain ⟨distinct, unused⟩ := ih
    refine ⟨List.nodup_cons.2 ⟨fun taken ↦ ?_, distinct⟩, List.forall_mem_cons.2 ⟨?_, ?_⟩⟩
    · obtain ⟨p, hp, same⟩ := List.mem_map.1 taken
      exact unused p hp (same ▸ List.mem_cons_self)
    · rw [numbers]
      exact settle_suffix_notMem used a.name
    · exact fun p hp taken ↦ unused p hp (List.mem_cons_of_mem _ taken)

/-- Where identifiers are numbered, no two tools have one file. -/
theorem nodup_paths (h : walker.Places used service requests placed service')
    (numbers : walker.collision = .suffix) (root : Path) :
    ((placed.map (·.file root)).map (·.path)).Nodup := by
  have distinct := (h.nodup_identifiers numbers).1
  rw [List.map_map]
  exact List.pairwise_map.2 ((List.pairwise_map.1 distinct).imp fun ne same ↦
    ne (Placement.identifier_eq_of_path_eq same))

/-- The tools follow from the requests and the state of the augmentor. -/
theorem eq_of_places {placed₂ : List Placement} {service₂ : σ}
    (h : walker.Places used service requests placed service')
    (h₂ : walker.Places used service requests placed₂ service₂) :
    placed = placed₂ ∧ service' = service₂ := by
  induction h generalizing placed₂ with
  | nil =>
    cases h₂
    exact ⟨rfl, rfl⟩
  | cons resolved compiled _ ih =>
    cases h₂ with
    | cons resolved₂ compiled₂ later₂ =>
      rw [resolved] at resolved₂
      cases resolved₂
      rw [compiled] at compiled₂
      cases compiled₂
      obtain ⟨rfl, same⟩ := ih later₂
      exact ⟨rfl, same⟩

end Places

end Walker

end Toolsmith.Generation
