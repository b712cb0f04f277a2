import Toolsmith.Generation.Walk
import Toolsmith.Proofs.Generation.Naming
import Toolsmith.Proofs.Path

/-!
# The order of a walk

A walk keeps what is left to do on a stack. The nodes on the stack are those that a recursion over
the tree has not come to yet, in its order and with the directories that it would pass on. So the
plan of a walk is the list of all nodes in that order, and the walk is the recursive one, step by
step and also where a step fails.

## Main definitions

* `Generation.preorderAll`: the nodes in the order of the recursion, with the folders they are in.
* `Generation.visits`: the requests with a payload among them.
* `Generation.Walker.visitAll`: the recursive walk.
* `Collection.Item.countAll`: the number of nodes of a kind.

## Main statements

* `plan_within`: what is planned.
* `Walker.walk_eq_visitAll`: the walk by way of a stack is the recursive one.
* `opened_of_preorderAll`: a folder comes before what is in it.
* `countP_preorderAll`: each node comes up once.
-/

namespace Toolsmith

/-! ### Counting nodes -/

namespace Collection.Item

/-- Whether the node is a request without payload. -/
def lacksPayload : Item → Bool
  | .folder _ _ => false
  | .request r => r.payload.isNone

/-- Whether the node is a request with a payload. -/
def hasPayload : Item → Bool
  | .folder _ _ => false
  | .request r => r.payload.isSome

mutual
/-- The number of nodes of a kind at and below a node. -/
def count (kind : Item → Bool) : Item → Nat
  | .folder name children => (kind (.folder name children)).toNat + countAll kind children
  | .request r => (kind (.request r)).toNat

/-- The number of nodes of a kind at and below several nodes. -/
def countAll (kind : Item → Bool) : List Item → Nat
  | [] => 0
  | item :: items => item.count kind + countAll kind items
end

mutual
/-- The requests of a node are its nodes with a payload. -/
theorem count_hasPayload : (item : Item) → item.count hasPayload = item.requestCount
  | .folder _ children => by
    rw [count, countAll_hasPayload children, requestCount, hasPayload, Bool.toNat_false,
      Nat.zero_add]
  | .request r => by
    rw [count, requestCount, hasPayload]
    cases r.payload <;> rfl

theorem countAll_hasPayload :
    (items : List Item) → countAll hasPayload items = requestCountAll items
  | [] => rfl
  | item :: items => by
    rw [countAll, count_hasPayload item, countAll_hasPayload items, requestCountAll]
end

end Collection.Item

namespace Generation

open Collection (Item Request)

/-! ### The recursion over the tree -/

mutual
/-- The nodes at and below a node that is in some folders, each with the directory names of the
folders that it is in. A folder comes before what is in it. -/
def preorder (folders : List String) : Item → List (Item × List String)
  | .folder name children =>
    (.folder name children, folders) :: preorderAll (folders ++ [folderName name]) children
  | .request r => [(.request r, folders)]

/-- The nodes at and below several nodes, in order of declaration. -/
def preorderAll (folders : List String) : List Item → List (Item × List String)
  | [] => []
  | item :: items => preorder folders item ++ preorderAll folders items
end

/-- The names that lead to the directory of a node, if it is a folder. -/
def directory? : Item × List String → Option (List String)
  | (.folder name _, folders) => some (folders ++ [folderName name])
  | (.request _, _) => none

/-- The request with its folders, if the node is one with a payload. -/
def visit? : Item × List String → Option (Request × List String)
  | (.folder _ _, _) => none
  | (.request r, folders) => if r.payload.isSome then some (r, folders) else none

/-- A visit is that of a request with a payload, in its folders. -/
theorem visit?_eq_some {e : Item × List String} {v : Request × List String}
    (h : visit? e = some v) : e = (.request v.1, v.2) ∧ v.1.payload.isSome = true := by
  obtain ⟨⟨name, children⟩ | r, folders⟩ := e
  · exact nomatch h
  · rw [visit?] at h
    split at h
    next payload =>
      obtain rfl := Option.some.inj h
      exact ⟨rfl, payload⟩
    next => exact nomatch h

/-- The requests with a payload in the order of the recursion, with the folders they are in. -/
def visits (items : List Item) : List (Request × List String) :=
  (preorderAll [] items).filterMap visit?

/-- What there is to do for a node, in a walk from a directory. -/
def stepAt (root : Path) : Item × List String → Step
  | (.folder name _, folders) => .folder (root.descend (folders ++ [folderName name]))
  | (.request r, folders) => if r.payload.isSome then .tool r (root.descend folders) else .skip

theorem within_cons (directory : Path) (item : Item) (items : List Item) :
    within directory (item :: items) = (item, directory) :: within directory items :=
  rfl

mutual
/-- The plan for a node on top of a stack is that of the recursion, followed by the plan for the
rest of the stack. -/
theorem plan_cons (root : Path) (folders : List String) (rest : List (Item × Path)) :
    (item : Item) → plan ((item, root.descend folders) :: rest) =
      (preorder folders item).map (stepAt root) ++ plan rest
  | .folder name children => by
    rw [plan, root.descend_child, plan_within_append root _ rest children, preorder]
    rfl
  | .request r => by
    rw [plan, preorder]
    rfl

/-- What a stack has planned is the listing of its front, and then the plan of the rest. -/
theorem plan_within_append (root : Path) (folders : List String) (rest : List (Item × Path)) :
    (items : List Item) → plan (within (root.descend folders) items ++ rest) =
      (preorderAll folders items).map (stepAt root) ++ plan rest
  | [] => rfl
  | item :: items => by
    rw [within_cons, List.cons_append, plan_cons root folders _ item,
      plan_within_append root folders rest items, preorderAll, List.map_append, List.append_assoc]
end

/-- What is planned for nodes of a directory. -/
theorem plan_within (root : Path) (items : List Item) :
    plan (within root items) = (preorderAll [] items).map (stepAt root) := by
  have whole := plan_within_append root [] [] items
  rw [root.descend_nil, List.append_nil] at whole
  rw [whole, show plan [] = [] by rw [plan], List.append_nil]

mutual
/-- The folders that a node is in have directory names. -/
theorem isDirectoryName_of_mem_preorder {folders : List String}
    (h : ∀ name ∈ folders, Naming.IsDirectoryName name) :
    (item : Item) → ∀ e ∈ preorder folders item, ∀ name ∈ e.2, Naming.IsDirectoryName name
  | .folder name children => by
    rw [preorder]
    exact List.forall_mem_cons.2 ⟨h, isDirectoryName_of_mem_preorderAll (List.forall_mem_append.2
      ⟨h, List.forall_mem_singleton.2 (isDirectoryName_folderName name)⟩) children⟩
  | .request r => by
    rw [preorder]
    exact List.forall_mem_singleton.2 h

/-- The folders of all nodes have directory names. -/
theorem isDirectoryName_of_mem_preorderAll {folders : List String}
    (h : ∀ name ∈ folders, Naming.IsDirectoryName name) :
    (items : List Item) → ∀ e ∈ preorderAll folders items, ∀ name ∈ e.2,
      Naming.IsDirectoryName name
  | [] => fun _ he ↦ absurd he List.not_mem_nil
  | item :: items => by
    rw [preorderAll]
    exact List.forall_mem_append.2
      ⟨isDirectoryName_of_mem_preorder h item, isDirectoryName_of_mem_preorderAll h items⟩
end

/-- A node is in no folder, or in one that came before it. -/
def Opened (folders : List String) (before : List (Item × List String))
    (e : Item × List String) : Prop :=
  e.2 = folders ∨ ∃ f ∈ before, directory? f = some e.2

/-- A node stays opened when more comes before it. -/
theorem Opened.mono {folders : List String} {before more : List (Item × List String)}
    {e : Item × List String} (h : Opened folders before e) (sub : before ⊆ more) :
    Opened folders more e :=
  h.imp_right fun ⟨f, hf, names⟩ ↦ ⟨f, sub hf, names⟩

mutual
/-- A node in the listing of another one is in no folder below that, or the folder came before. -/
theorem opened_of_preorder (folders : List String) {before after : List (Item × List String)}
    {e : Item × List String} :
    (item : Item) → preorder folders item = before ++ e :: after → Opened folders before e
  | .folder name children, h => by
    rw [preorder] at h
    cases before with
    | nil => exact .inl (congrArg Prod.snd (List.cons.inj h).1).symm
    | cons f before =>
      obtain ⟨rfl, rest⟩ := List.cons.inj h
      -- What is in the folder is in one that came up further below, or in the folder itself.
      rcases opened_of_preorderAll _ children rest with here | ⟨g, hg, names⟩
      · exact .inr ⟨_, List.mem_cons_self, congrArg some here.symm⟩
      · exact .inr ⟨g, List.mem_cons_of_mem _ hg, names⟩
  | .request r, h => by
    rw [preorder] at h
    cases before with
    | nil => exact .inl (congrArg Prod.snd (List.cons.inj h).1).symm
    | cons f before => cases before <;> cases (List.cons.inj h).2

/-- The directory of a folder comes before what is in it. -/
theorem opened_of_preorderAll (folders : List String) {before after : List (Item × List String)}
    {e : Item × List String} :
    (items : List Item) → preorderAll folders items = before ++ e :: after →
      Opened folders before e
  | [], h => by cases before <;> cases h
  | item :: items, h => by
    rw [preorderAll, List.append_eq_append_iff] at h
    rcases h with ⟨between, rfl, rest⟩ | ⟨between, first, rest⟩
    · exact (opened_of_preorderAll folders items rest).mono (List.subset_append_right _ _)
    · cases between with
      | nil =>
        rw [List.append_nil] at first
        subst first
        have rest : preorderAll folders items = [] ++ e :: after := rest.symm
        exact (opened_of_preorderAll folders items rest).mono (List.nil_subset _)
      | cons f between =>
        obtain ⟨rfl, -⟩ := List.cons.inj rest
        exact opened_of_preorder folders item first
end

mutual
/-- Each node is listed once. -/
theorem countP_preorder (kind : Item → Bool) (folders : List String) :
    (item : Item) → (preorder folders item).countP (fun e ↦ kind e.1) = item.count kind
  | .folder name children => by
    rw [preorder, List.countP_cons, countP_preorderAll kind _ children, Item.count, Nat.add_comm]
    cases kind (.folder name children) <;> rfl
  | .request r => by
    rw [preorder, List.countP_singleton, Item.count]
    cases kind (.request r) <;> rfl

/-- Each node comes up once. -/
theorem countP_preorderAll (kind : Item → Bool) (folders : List String) :
    (items : List Item) →
      (preorderAll folders items).countP (fun e ↦ kind e.1) = Item.countAll kind items
  | [] => rfl
  | item :: items => by
    rw [preorderAll, List.countP_append, countP_preorder kind folders item,
      countP_preorderAll kind folders items, Item.countAll]
end

/-- The requests that are visited have a payload. -/
theorem isSome_of_mem_visits (items : List Item) :
    ∀ v ∈ visits items, v.1.payload.isSome = true := by
  intro v hv
  obtain ⟨e, -, visited⟩ := List.mem_filterMap.1 hv
  exact (visit?_eq_some visited).2

/-- There is one visit for each request with a payload. -/
theorem length_visits (items : List Item) : (visits items).length = Item.requestCountAll items := by
  have some_visit (e : Item × List String) : (visit? e).isSome = e.1.hasPayload := by
    obtain ⟨item, folders⟩ := e
    cases item with
    | folder name children => rfl
    | request r => cases h : r.payload <;> simp [visit?, Item.hasPayload, h]
  rw [visits, List.length_filterMap_eq_countP, ← Item.countAll_hasPayload,
    ← countP_preorderAll _ []]
  exact List.countP_congr fun e _ ↦ by rw [some_visit]

/-! ### The recursive walk -/

namespace Walker

variable {σ : Type} (walker : Walker σ)

mutual
/-- Walks a node of a directory, a folder with what is in it. -/
def visit (directory : Path) (s : Summary) : Item → Job σ Summary
  | .folder name children => do
    let inside := directory.child (folderName name)
    let s ← walker.step s (.folder inside)
    visitAll inside s children
  | .request r => walker.step s (if r.payload.isSome then .tool r directory else .skip)

/-- Walks nodes of a directory, one after the other. -/
def visitAll (directory : Path) (s : Summary) : List Item → Job σ Summary
  | [] => return s
  | item :: items => do
    let s ← visit directory s item
    visitAll directory s items
end

/-- Steps that come after others are done after them. -/
theorem steps_append (s : Summary) (steps more : List Step) :
    walker.steps s (steps ++ more) = walker.steps s steps >>= (walker.steps · more) := by
  induction steps generalizing s with
  | nil => rw [List.nil_append, Walker.steps, pure_bind]
  | cons step steps ih => simp only [List.cons_append, Walker.steps, ih, bind_assoc]

mutual
/-- The steps that are planned for a node are its recursive visit. -/
theorem steps_preorder (root : Path) (folders : List String) (s : Summary) : (item : Item) →
    walker.steps s ((preorder folders item).map (stepAt root)) =
      walker.visit (root.descend folders) s item
  | .folder name children => by
    simp only [preorder, List.map_cons, Walker.steps, stepAt, visit, root.descend_child,
      steps_preorderAll root _ _ children]
  | .request r => by
    simp only [preorder, List.map_cons, List.map_nil, Walker.steps, stepAt, visit, bind_pure]

theorem steps_preorderAll (root : Path) (folders : List String) (s : Summary) :
    (items : List Item) → walker.steps s ((preorderAll folders items).map (stepAt root)) =
      walker.visitAll (root.descend folders) s items
  | [] => rfl
  | item :: items => by
    simp only [preorderAll, List.map_append, steps_append, visitAll,
      steps_preorder root folders s item, steps_preorderAll root folders _ items]
end

/-- The walk by way of a stack is the recursive one. -/
theorem walk_eq_visitAll (items : List Item) (directory : Path) :
    walker.walk items directory = walker.visitAll directory {} items := by
  rw [walk, plan_within, steps_preorderAll, directory.descend_nil]

end Walker

end Generation

end Toolsmith
