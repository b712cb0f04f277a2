import Toolsmith.Proofs.Generation.Effect
import Toolsmith.Proofs.Generation.Summary

/-!
# The course of a walk

A walk never looks at the files. What it does to them follows from its nodes and from the tools that
their requests lead to: a directory is made for each folder, and a file is written for each tool. It
ends with the last node, or with the first request whose names cannot be resolved, and up to there
it is the walk of the nodes before.

## Main definitions

* `Generation.operations`: what a walk does to the files.
* `Generation.tally`: the summary that a walk ends with.
* `Generation.Walker.Stops`: the request that a walk ends with.

## Main statements

* `mem_operations`: the operations are those of the folders and of the tools.
* `Walker.places_or_stops`: either all requests lead to tools, or the names of one are not resolved.
* `Walker.does_walkCollection`: what a walk does where all requests lead to tools.
* `Walker.Stops.does_walkCollection`: what it does where one does not.
* `Walker.exists_does_walkCollection`: a walk does one or the other.
-/

namespace Toolsmith.Generation

open Collection (Item Request)
open Files (Operation)

variable {σ : Type} {walker : Walker σ} {root : Path}

/-! ### Operations -/

/-- Writing the file of a tool. -/
def Placement.write (root : Path) (p : Placement) : Operation :=
  .write (p.file root).path (.text p.artifact.render)

/-- What there is to do to the files for nodes whose requests lead to some tools. -/
def operations (root : Path) : List (Item × List String) → List Placement → List Operation
  | [], _ => []
  | (.folder name _, folders) :: nodes, placed =>
    .makeDirectories (root.descend (folders ++ [folderName name])) :: operations root nodes placed
  | (.request r, _) :: nodes, placed =>
    if r.payload.isSome then
      match placed with
      | [] => []
      | p :: placed => p.write root :: operations root nodes placed
    else operations root nodes placed

/-- The summary after nodes whose requests lead to some tools. -/
def tally (root : Path) : Summary → List (Item × List String) → List Placement → Summary
  | s, [], _ => s
  | s, (.folder _ _, _) :: nodes, placed =>
    tally root { s with foldersCreated := s.foldersCreated + 1 } nodes placed
  | s, (.request r, _) :: nodes, placed =>
    if r.payload.isSome then
      match placed with
      | [] => s
      | p :: placed => tally root (s.add (p.file root)) nodes placed
    else tally root { s with requestsSkipped := s.requestsSkipped + 1 } nodes placed

/-- What there is to do to the files is to make the directory of a folder or to write the file of a
tool. -/
theorem mem_operations {nodes : List (Item × List String)} {placed : List Placement}
    {op : Operation} (h : op ∈ operations root nodes placed) :
    (∃ e ∈ nodes, ∃ names, directory? e = some names ∧
        op = .makeDirectories (root.descend names)) ∨
      ∃ p ∈ placed, op = p.write root := by
  induction nodes generalizing placed with
  | nil => exact absurd h List.not_mem_nil
  | cons e nodes ih =>
    have later {placed : List Placement} (rest : op ∈ operations root nodes placed) :
        (∃ d ∈ e :: nodes, ∃ names, directory? d = some names ∧
            op = .makeDirectories (root.descend names)) ∨ ∃ p ∈ placed, op = p.write root :=
      (ih rest).imp_left fun ⟨d, hd, told⟩ ↦ ⟨d, List.mem_cons_of_mem e hd, told⟩
    obtain ⟨⟨name, children⟩ | r, folders⟩ := e
    · rcases List.mem_cons.1 h with rfl | rest
      · exact .inl ⟨_, List.mem_cons_self, _, rfl, rfl⟩
      · exact later rest
    · obtain _ | ⟨p, placed⟩ := placed <;> rw [operations] at h <;> split at h
      · exact absurd h List.not_mem_nil
      · exact later h
      · rcases List.mem_cons.1 h with rfl | rest
        · exact .inr ⟨p, List.mem_cons_self, rfl⟩
        · exact (later rest).imp_right fun ⟨q, hq, told⟩ ↦ ⟨q, List.mem_cons_of_mem p hq, told⟩
      · exact later h

/-! ### Walks that come to all nodes -/

/-- The file of a tool is written once its names are resolved. -/
theorem Walker.does_tool {s : Summary} {service mid : σ} {r : Request} {folders : List String}
    {naming : Naming} {a : Artifact} {p : Placement} (payload : r.payload.isSome = true)
    (resolved : walker.resolver.resolve r service = (.ok naming, mid))
    (compiled : Compile.artifact? r naming = some a)
    (made : p = {
      request := r, folders, naming
      artifact := { a with name := settle walker.collision s.identifiers a.name } }) :
    (walker.step s (stepAt root (.request r, folders))).Does service [p.write root]
      (.ok (s.add (p.file root))) mid := by
  have file : p.file root = ⟨(root.descend folders).child p.artifact.fileName, p.artifact⟩ := by
    rw [root.descend_child, made]
    rfl
  rw [stepAt, if_pos payload, Placement.write, file]
  have named := Job.Does.resolve resolved
  refine named.bind ?_
  subst made
  simp only [compiled]
  exact (Job.Does.operate _ mid).map fun _ ↦ _

/-- Nodes whose requests all lead to tools are come to one after the other. -/
theorem Walker.does_steps {s : Summary} {service service' : σ} {nodes : List (Item × List String)}
    {placed : List Placement}
    (places : walker.Places s.identifiers service (nodes.filterMap visit?) placed service') :
    (walker.steps s (nodes.map (stepAt root))).Does service (operations root nodes placed)
      (.ok (tally root s nodes placed)) service' := by
  induction nodes generalizing s service placed with
  | nil =>
    obtain ⟨⟩ := places
    exact .pure s _
  | cons e nodes ih =>
    obtain ⟨⟨name, children⟩ | r, folders⟩ := e
    · have made := (Job.Does.operate
        (.makeDirectories (root.descend (folders ++ [folderName name]))) service).map fun _ ↦
          { s with foldersCreated := s.foldersCreated + 1 }
      exact made.bind (ih (s := { s with foldersCreated := s.foldersCreated + 1 }) places)
    · by_cases payload : r.payload.isSome = true
      · have visited : visit? (.request r, folders) = some (r, folders) := if_pos payload
        rw [List.filterMap_cons_some visited] at places
        obtain _ | ⟨resolved, compiled, later⟩ := places
        simp only [operations, tally, payload, if_true]
        refine (Walker.does_tool payload resolved compiled rfl).bind
          (ih (s := s.add (Placement.file root _)) ?_)
        rw [Summary.identifiers_add]
        exact later
      · have idle : visit? (.request r, folders) = none := if_neg payload
        rw [List.filterMap_cons_none idle] at places
        simp only [operations, tally, payload, Bool.false_eq_true, if_false]
        have passed : (walker.step s (stepAt root (.request r, folders))).Does service []
            (.ok { s with requestsSkipped := s.requestsSkipped + 1 }) service := by
          rw [stepAt, if_neg payload]
          exact .pure _ service
        exact passed.bind (ih (s := { s with requestsSkipped := s.requestsSkipped + 1 }) places)

/-- A walk of a collection whose requests all lead to tools. -/
theorem Walker.does_walkCollection (root : Path) {c : Collection} {service service' : σ}
    {placed : List Placement} (places : walker.Places [] service (visits c.items) placed service') :
    (walker.walkCollection c root).Does service
      (.makeDirectories root :: operations root (preorderAll [] c.items) placed)
      (.ok (tally root {} (preorderAll [] c.items) placed)) service' := by
  rw [walkCollection_eq_steps]
  exact (Job.Does.operate (.makeDirectories root) service).bind (Walker.does_steps (s := {}) places)

/-- What a walk into an empty directory leaves there that came to some nodes: the files of their
tools, and no others. -/
theorem Walker.Places.stored {fs fs' : Files} {service service' : σ}
    {nodes : List (Item × List String)} {placed : List Placement}
    (places : walker.Places [] service (nodes.filterMap visit?) placed service')
    (empty : fs.EmptyBelow root)
    (done : fs.performAll (.makeDirectories root :: operations root nodes placed) =
      (.ok (), fs')) :
    Stored fs' root (Summary.putAll [] (placed.map (·.file root))) := by
  have does : (do Job.makeDirectories root
                  walker.steps {} (nodes.map (stepAt root))).Does service
      (.makeDirectories root :: operations root nodes placed) (.ok (tally root {} nodes placed))
      service' :=
    (Job.Does.operate (.makeDirectories root) service).bind (Walker.does_steps (s := {}) places)
  obtain ⟨_, w₁, made, steps⟩ := Job.bind_eq_ok (does.done done)
  obtain ⟨⟨grows, leads, directory⟩, kept⟩ := Job.makeDirectories_eq_ok made
  obtain ⟨placed₂, account⟩ := account_of_steps steps
  have places₂ := account.places
  rw [kept] at places₂
  obtain ⟨rfl, -⟩ := places.eq_of_places places₂
  exact (Stored.start empty grows leads directory).lays List.nodup_nil below_of_mem_files
    account.lays

/-! ### Walks that end before -/

/-- The names of a request are not resolved, and the requests before it lead to tools. -/
structure Walker.Stops (walker : Walker σ) (used : List String) (service : σ)
    (requests : List (Request × List String)) (placed : List Placement) (r : Request)
    (e : Naming.AugmentError) (service' : σ) : Prop where
  /-- The request comes after those of the tools. -/
  split : ∃ folders after, requests = placed.map (·.visit) ++ (r, folders) :: after
  /-- The requests before lead to the tools, and the names of this one are not resolved. -/
  ends : ∃ mid, walker.Places used service (placed.map (·.visit)) placed mid ∧
    walker.resolver.resolve r mid = (.error e, service')

/-- Either all requests with a payload lead to tools, or the names of one are not resolved. -/
theorem Walker.places_or_stops (walker : Walker σ) (used : List String) (service : σ)
    {requests : List (Request × List String)}
    (payload : ∀ v ∈ requests, v.1.payload.isSome = true) :
    (∃ placed service', walker.Places used service requests placed service') ∨
      ∃ placed r e service', walker.Stops used service requests placed r e service' := by
  induction requests generalizing used service with
  | nil => exact .inl ⟨[], service, .nil⟩
  | cons v requests ih =>
    obtain ⟨r, folders⟩ := v
    obtain ⟨carries, rest⟩ := List.forall_mem_cons.1 payload
    rcases resolved : walker.resolver.resolve r service with ⟨e | naming, mid⟩
    · exact .inr ⟨[], r, e, mid, ⟨folders, requests, rfl⟩, service, .nil, resolved⟩
    · obtain ⟨q, hq⟩ := Option.isSome_iff_exists.1 carries
      obtain ⟨a, compiled⟩ : ∃ a, Compile.artifact? r naming = some a :=
        ⟨_, congrArg (Option.map _) hq⟩
      rcases ih (settle walker.collision used a.name :: used) mid rest with
        ⟨placed, service', later⟩ | ⟨placed, r', e, service', ⟨folders', after, split⟩, last⟩
      · exact .inl ⟨_, service', .cons resolved compiled later⟩
      · obtain ⟨mid', later, failed⟩ := last
        let p : Placement := {
          request := r, folders, naming
          artifact := { a with name := settle walker.collision used a.name } }
        refine .inr ⟨p :: placed, r', e, service', ⟨folders', after, ?_⟩, mid',
          .cons resolved compiled later, failed⟩
        rw [split]
        rfl

/-- The nodes before the request that a walk ends with. -/
theorem Walker.Stops.exists_nodes {used : List String} {service service' : σ} {r : Request}
    {e : Naming.AugmentError} {nodes : List (Item × List String)} {placed : List Placement}
    (h : walker.Stops used service (nodes.filterMap visit?) placed r e service') :
    ∃ before folders after, nodes = before ++ (.request r, folders) :: after ∧
      r.payload.isSome = true ∧ before.filterMap visit? = placed.map (·.visit) := by
  obtain ⟨folders, rest, split⟩ := h.split
  obtain ⟨before, later, rfl, first, last⟩ := List.filterMap_eq_append_iff.1 split
  obtain ⟨idle, _, after, rfl, passed, visited, -⟩ := List.filterMap_eq_cons_iff.1 last
  have none : idle.filterMap visit? = [] := List.filterMap_eq_nil_iff.2 passed
  obtain ⟨rfl, payload⟩ := visit?_eq_some visited
  refine ⟨before ++ idle, folders, after, by rw [List.append_assoc], payload, ?_⟩
  rw [List.filterMap_append, none, List.append_nil, first]

/-- A walk of a collection that ends with a request has done what there is to do for the nodes
before it. -/
theorem Walker.Stops.does_walkCollection {c : Collection} {service service' : σ} {r : Request}
    {e : Naming.AugmentError} {placed : List Placement} {before after : List (Item × List String)}
    {folders : List String} (h : walker.Stops [] service (visits c.items) placed r e service')
    (split : preorderAll [] c.items = before ++ (.request r, folders) :: after)
    (payload : r.payload.isSome = true) (first : before.filterMap visit? = placed.map (·.visit))
    (root : Path) :
    (walker.walkCollection c root).Does service
      (.makeDirectories root :: operations root before placed)
      (.error (.augment (r.name.getD "") e)) service' := by
  obtain ⟨mid, places, failed⟩ := h.ends
  rw [← first] at places
  rw [walkCollection_eq_steps, split, List.map_append]
  simp only [steps_append]
  -- The step of the request does nothing but ask for its names.
  have last (s : Summary) : (walker.steps s ((Item.request r, folders) :: after |>.map
      (stepAt root))).Does mid [] (.error (.augment (r.name.getD "") e)) service' := by
    rw [List.map_cons, stepAt, if_pos payload]
    exact ((Job.Does.resolve failed).bind_error _).bind_error _
  have first : (walker.steps {} (before.map (stepAt root))).Does service _ _ mid :=
    Walker.does_steps places
  rw [← List.append_nil (operations root before placed)]
  exact (Job.Does.operate (.makeDirectories root) service).bind (first.bind (last _))

/-- A walk of a collection comes to some nodes first, and does what there is to do for them. -/
theorem Walker.exists_does_walkCollection (walker : Walker σ) (c : Collection) (root : Path)
    (service : σ) :
    ∃ before after placed mid outcome service', preorderAll [] c.items = before ++ after ∧
      walker.Places [] service (before.filterMap visit?) placed mid ∧
      (walker.walkCollection c root).Does service
        (.makeDirectories root :: operations root before placed) outcome service' := by
  rcases walker.places_or_stops [] service (isSome_of_mem_visits c.items) with
    ⟨placed, service', places⟩ | ⟨placed, r, e, service', stops⟩
  · exact ⟨_, [], placed, service', _, service', (List.append_nil _).symm, places,
      Walker.does_walkCollection root places⟩
  · obtain ⟨before, folders, after, split, payload, first⟩ := stops.exists_nodes
    obtain ⟨mid, places, -⟩ := stops.ends
    exact ⟨before, _, placed, mid, _, service', split, first ▸ places,
      stops.does_walkCollection split payload first root⟩

end Toolsmith.Generation
