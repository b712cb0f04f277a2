import Toolsmith.Proofs.Generation.Course

/-!
# Walks stay in their directory

Whatever the folders and requests of a collection are named and whatever an augmentor suggests, a
walk makes and writes nothing outside of its directory: each name on the way below it is a directory
name, and the last one of a file is an identifier with the extension of tools. So no name leads up
again, none leads to several places, and none is empty.

## Main definitions

* `Generation.Confined`: an operation stays in a directory.

## Main statements

* `confined_operations`: what there is to do for the nodes of a collection.
* `get?_performAll_of_confined`: what operations change that stay in a directory.
* `Walker.walkCollection_confined`: walks stay in their directory, also where they fail.
-/

namespace Toolsmith.Generation

open Collection (Item Request)
open Files (Operation)
open Naming (IsDirectoryName IsIdentifier)

variable {σ : Type} {root : Path}

/-- An operation stays in a directory: it makes a directory there some directory names below, or
writes a file that is named by an identifier. -/
inductive Confined (root : Path) : Operation → Prop
  /-- A directory is made. -/
  | directory {names : List String} (proper : ∀ name ∈ names, IsDirectoryName name) :
      Confined root (.makeDirectories (root.descend names))
  /-- A file is written. -/
  | file {names : List String} {identifier text : String}
      (proper : ∀ name ∈ names, IsDirectoryName name) (named : IsIdentifier identifier) :
      Confined root (.write (root.descend (names ++ [identifier ++ ".json"])) (.text text))

/-! ### The operations of a walk -/

theorem Walker.Places.isIdentifier {walker : Walker σ} {used : List String}
    {service service' : σ} {requests : List (Request × List String)} {placed : List Placement}
    (h : walker.Places used service requests placed service') :
    ∀ p ∈ placed, IsIdentifier p.identifier := by
  induction h with
  | nil => exact fun _ hp ↦ absurd hp List.not_mem_nil
  | @cons used _ _ _ _ _ _ _ a _ resolved compiled _ ih =>
    refine List.forall_mem_cons.2 ⟨isIdentifier_settle used walker.collision ?_, ih⟩
    rw [name_compiled compiled]
    exact Naming.Resolver.isIdentifier resolved

theorem Placement.confined_write {p : Placement} (named : IsIdentifier p.identifier)
    (proper : ∀ name ∈ p.folders, IsDirectoryName name) : Confined root (p.write root) := by
  have path : (p.file root).path = root.descend (p.folders ++ [p.identifier ++ ".json"]) := by
    show root.descend (p.folders ++ [p.artifact.name ++ "." ++ "json"]) = _
    rw [String.append_assoc]
    rfl
  rw [Placement.write, path]
  exact .file proper named

/-- What there is to do for nodes whose folders have directory names stays in the directory. -/
theorem confined_operations {nodes : List (Item × List String)} {placed : List Placement}
    (folders : ∀ e ∈ nodes, ∀ name ∈ e.2, IsDirectoryName name)
    (tools : ∀ p ∈ placed, IsIdentifier p.identifier ∧ ∀ name ∈ p.folders, IsDirectoryName name) :
    ∀ op ∈ operations root nodes placed, Confined root op := by
  intro op hop
  rcases mem_operations hop with ⟨⟨⟨name, children⟩ | r, inside⟩, he, names, dir, rfl⟩ |
    ⟨p, hp, rfl⟩
  · obtain rfl := Option.some.inj dir
    exact .directory (List.forall_mem_append.2
      ⟨folders _ he, List.forall_mem_singleton.2 (isDirectoryName_folderName name)⟩)
  · exact nomatch dir
  · exact Placement.confined_write (tools p hp).1 (tools p hp).2

/-! ### What stays in a directory -/

/-- What operations change that stay in a directory is a new directory or a file that stands below
it by proper names, or a new directory on the way there, also where one of them fails. -/
theorem get?_performAll_of_confined {fs : Files} {ops : List Operation}
    (h : ∀ op ∈ ops, Confined root op) {names : List String}
    (changed : (fs.performAll ops).2.get? names ≠ fs.get? names) :
    (fs.get? names = none ∧ (fs.performAll ops).2.get? names = some .directory ∧
        ((∃ goal ∈ fs.goals root, names <+: goal) ∨
          ∃ below, names = fs.locate root ++ below ∧ ∀ name ∈ below, IsDirectoryName name)) ∨
      ∃ below identifier content x, names = fs.locate root ++ (below ++ [identifier ++ ".json"]) ∧
        (∀ name ∈ below, IsDirectoryName name) ∧ IsIdentifier identifier ∧
        (fs.performAll ops).2.get? names = some (.file content x) := by
  rcases fs.get?_performAll ops names with same | ⟨p, hop, ⟨goal, hg, front⟩, free, made⟩ |
    ⟨op, hop, content, x, here, other, there⟩
  · exact absurd same changed
  · refine .inl ⟨free, made, ?_⟩
    obtain @⟨below, proper⟩ := h _ hop
    rw [Files.goals, Files.detours_descend, Files.locate_descend] at hg
    rcases List.mem_append.1 hg with way | last
    · exact .inl ⟨goal, List.mem_append_left _ way, front⟩
    · -- The new directory leads to the one of the walk, or it stands below.
      rw [List.mem_singleton.1 last] at front
      obtain ⟨more, whole⟩ := front
      rcases List.append_eq_append_iff.1 whole with ⟨rest, above, -⟩ | ⟨passed, rfl, rfl⟩
      · exact .inl ⟨_, List.mem_append_right _ List.mem_cons_self, rest, above.symm⟩
      · exact .inr ⟨passed, rfl, fun name hn ↦ proper name (List.mem_append_left _ hn)⟩
  · obtain ⟨proper⟩ | @⟨below, identifier, _, proper, named⟩ := h op hop
    · exact absurd rfl (other _)
    · refine .inr ⟨below, identifier, content, x, ?_, proper, named, there⟩
      rw [here, Operation.path, Files.locate_descend]

namespace Walker

/-- A walk stays in its directory, whether it succeeds or fails. Whatever the files are, it does the
same operations up to the first one that fails, and each of them stays in the directory: it makes a
directory or writes a file at the end of names that are not empty and hold letters, digits,
underscores and dashes only, where the last name of a file is an identifier of letters and digits,
and the extension. So nothing else is different afterwards, but that the directories that the path
of the walk leads through may be new. -/
theorem walkCollection_confined (walker : Walker σ) (c : Collection) (root : Path) (service : σ) :
    ∃ ops outcome service', (walker.walkCollection c root).Does service ops outcome service' ∧
      (∀ op ∈ ops, Confined root op) ∧
      ∀ fs outcome w', (walker.walkCollection c root).perform ⟨fs, service⟩ = (outcome, w') →
        w'.files = (fs.performAll ops).2 ∧
        ∀ names, w'.files.get? names ≠ fs.get? names →
          (fs.get? names = none ∧ w'.files.get? names = some .directory ∧
            ((∃ goal ∈ fs.goals root, names <+: goal) ∨
              ∃ below, names = fs.locate root ++ below ∧ ∀ name ∈ below, IsDirectoryName name)) ∨
          ∃ below identifier content x,
            names = fs.locate root ++ (below ++ [identifier ++ ".json"]) ∧
            (∀ name ∈ below, IsDirectoryName name) ∧ IsIdentifier identifier ∧
            w'.files.get? names = some (.file content x) := by
  obtain ⟨before, after, placed, _, outcome, service', split, places, does⟩ :=
    walker.exists_does_walkCollection c root service
  have folders : ∀ e ∈ before, ∀ name ∈ e.2, IsDirectoryName name := by
    have all := isDirectoryName_of_mem_preorderAll (fun _ h ↦ absurd h List.not_mem_nil) c.items
    rw [split] at all
    exact fun e he ↦ all e (List.mem_append_left _ he)
  have tools : ∀ p ∈ placed,
      IsIdentifier p.identifier ∧ ∀ name ∈ p.folders, IsDirectoryName name := by
    refine fun p hp ↦ ⟨places.isIdentifier p hp, ?_⟩
    -- The folders of a tool are those of a node.
    have visited : p.visit ∈ before.filterMap visit? := places.map_visit ▸ List.mem_map_of_mem hp
    obtain ⟨e, he, visited⟩ := List.mem_filterMap.1 visited
    obtain ⟨rfl, -⟩ := visit?_eq_some visited
    exact folders _ he
  have confined : ∀ op ∈ Operation.makeDirectories root :: operations root before placed,
      Confined root op := by
    refine List.forall_mem_cons.2 ⟨?_, confined_operations folders tools⟩
    have itself : Confined root (.makeDirectories (root.descend [])) :=
      .directory fun _ h ↦ absurd h List.not_mem_nil
    rwa [root.descend_nil] at itself
  refine ⟨_, outcome, service', does, confined, fun fs outcome w' run ↦ ?_⟩
  have left := does.files_eq run
  refine ⟨left, fun names changed ↦ ?_⟩
  rw [left] at changed ⊢
  exact get?_performAll_of_confined confined changed

/-- A folder whose name leads up, with a request in it whose name leads away, and a request whose
name spells nothing. -/
def burglary : Collection where
  items :=
    [.folder (some "..") [.request { name := some "../../etc/passwd", payload := some {} }],
      .request { name := some "/", payload := some {} }]

/-- The burglars do not get out. -/
theorem walkCollection_confined_burglary :
    ∃ (s : Summary) (w' : World Unit),
      (walkCollection {} burglary ⟨"out", []⟩).perform ⟨{}, ()⟩ = (.ok s, w') ∧
      s.written.map (·.path) =
        [⟨"out", ["__", "etcpasswd.json"]⟩, ⟨"out", ["unnamedTool.json"]⟩] ∧
      ∀ names, w'.files.get? names ≠ none → names = [] ∨ ∃ below, names = "out" :: below := by
  have paths : ((walkCollection (σ := Unit) {} burglary ⟨"out", []⟩).perform
      ⟨{}, ()⟩).1.toOption.map (·.written.map (·.path)) =
      some [⟨"out", ["__", "etcpasswd.json"]⟩, ⟨"out", ["unnamedTool.json"]⟩] := by decide +kernel
  obtain ⟨s, w', run, same⟩ := Job.exists_of_toOption paths
  obtain ⟨ops, _, _, -, -, confined⟩ := walkCollection_confined {} burglary ⟨"out", []⟩ ()
  obtain ⟨-, told⟩ := confined {} _ w' run
  have at_ : Files.locate {} ⟨"out", []⟩ = ["out"] := by decide +kernel
  have goals : Files.goals {} ⟨"out", []⟩ = [["out"]] := by decide +kernel
  refine ⟨s, w', run, same, fun names there ↦ ?_⟩
  by_cases root : names = []
  · exact .inl root
  · have none : Files.get? {} names = none := if_neg root
    rw [← none] at there
    rcases told names there with ⟨-, -, ⟨goal, hg, above⟩ | ⟨below, rfl, -⟩⟩ |
      ⟨below, identifier, _, _, rfl, -⟩
    · rw [goals] at hg
      rw [List.mem_singleton.1 hg] at above
      obtain rfl | ⟨below, rfl, -⟩ := List.prefix_cons_iff.1 above
      · exact absurd rfl root
      · exact .inr ⟨below, rfl⟩
    · exact .inr ⟨below, by rw [at_]; rfl⟩
    · exact .inr ⟨below ++ [identifier ++ ".json"], by rw [at_]; rfl⟩

end Walker

end Toolsmith.Generation
