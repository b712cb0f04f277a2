import Toolsmith.Generation.Generator
import Toolsmith.Proofs.Generation.Regenerate
import Toolsmith.Proofs.Generation.Twins

/-!
# Servers written alike

Two jobs do the same below two directories if, whenever the directories hold the same, either both
fail or both succeed and the directories hold the same again. Jobs of such steps are of that kind
themselves. All that a server is written with is such a step, as the names and texts of its files
follow from the collection and from the augmentor's answers: so a server that is written into two
empty directories is the same in both, and the same is told of it.

## Main definitions

* `Generation.Job.result`: the result of a job with the world that it left behind.
* `Generation.Job.Alike`: two jobs do the same below two directories.
* `Generation.Summary.Alike`: the same is told of walks into two directories.

## Main statements

* `Generation.Job.Alike.bind`: jobs of two steps.
* `Generation.Walker.alike_walkCollection`: walks into two directories.
* `Generation.Generator.alike_writeServer`: servers in two directories.
-/

namespace Toolsmith.Generation

open Collection (Item Request)
open Files (Operation)

variable {σ α β γ δ : Type} {root root' : Path} {w : World σ}

/-! ### Results of jobs -/

namespace Job

/-- The result of a job with the world that it left behind, or why it failed. -/
def result (job : Job σ α) (w : World σ) : Except Error (α × World σ) :=
  match job.perform w with
  | (.ok a, w') => .ok (a, w')
  | (.error e, _) => .error e

/-- The result of a job that succeeded is what it made and the world that it left. -/
theorem result_eq_ok {job : Job σ α} {a : α} {w' : World σ} :
    job.result w = .ok (a, w') ↔ job.perform w = (.ok a, w') := by
  rw [result]
  rcases job.perform w with ⟨e | b, v⟩
  · exact iff_of_false nofun nofun
  · simp

/-- The result of a job of two steps is that of the second one, if the first one succeeds. -/
theorem result_bind (x : Job σ α) (f : α → Job σ β) (w : World σ) :
    (x >>= f).result w = x.result w >>= fun p ↦ (f p.1).result p.2 := by
  rw [result, result, perform_bind]
  rcases x.perform w with ⟨e | a, v⟩ <;> rfl

/-- The result of a step that is an operation is the files that the operation left. -/
theorem result_operateFor (told : Path) (op : Operation) (w : World σ) :
    (operateFor told op : Job σ Unit).result w =
      (op.apply w.files).1.mapError (.write told) >>= fun _ ↦
        .ok ((), { w with files := (op.apply w.files).2 }) := by
  rw [result, perform_operateFor]
  rcases op.apply w.files with ⟨e | ⟨⟨⟩⟩, files⟩ <;> rfl

theorem result_resolve {resolver : Naming.Resolver σ} {r : Request}
    {outcome : Except Naming.AugmentError Naming} {service : σ}
    (resolved : resolver.resolve r w.service = (outcome, service)) :
    (resolve resolver r).result w = match outcome with
      | .ok naming => .ok (naming, { w with service })
      | .error e => .error (.augment (r.name.getD "") e) := by
  have got : (get : Job σ (World σ)).result w = .ok (w, w) := rfl
  rw [resolve, result_bind, got]
  simp only [bind, Except.bind, resolved]
  cases outcome <;> rfl

end Job

/-! ### Jobs that do the same -/

/-- The files of two worlds hold the same below two directories, and their augmentors are in the
same state. -/
structure World.Alike (root root' : Path) (w v : World σ) : Prop where
  /-- The directories hold the same. -/
  files : Twins w.files v.files root root'
  /-- The augmentors are in the same state. -/
  service : v.service = w.service

/-- Two jobs do the same below two directories: from worlds where these hold the same, both fail, or
both succeed, with results that are related, in worlds where they hold the same. -/
def Job.Alike (root root' : Path) (R : α → β → Prop) (x : Job σ α) (y : Job σ β) : Prop :=
  ∀ ⦃w v : World σ⦄, w.Alike root root' v →
    Agree (fun p q ↦ R p.1 q.1 ∧ p.2.Alike root root' q.2) (x.result w) (y.result v)

namespace Job.Alike

variable {R : α → β → Prop} {S : γ → δ → Prop} {names : List String}

theorem pure {a : α} {b : β} (h : R a b) :
    Alike root root' R (Pure.pure a : Job σ α) (Pure.pure b) :=
  fun _ _ alike ↦ .ok ⟨h, alike⟩

theorem throw {e e' : Error} :
    Alike root root' R (MonadExcept.throw e : Job σ α) (MonadExcept.throw e') :=
  fun _ _ _ ↦ .error

/-- Jobs of two steps are alike if both of their steps are. -/
theorem bind {x : Job σ α} {y : Job σ β} {f : α → Job σ γ} {g : β → Job σ δ}
    (h : Alike root root' R x y) (later : ∀ a b, R a b → Alike root root' S (f a) (g b)) :
    Alike root root' S (x >>= f) (y >>= g) := by
  intro w v alike
  rw [result_bind, result_bind]
  exact (h alike).bind fun p q ⟨related, alike⟩ ↦ later p.1 q.1 related alike

/-- Operations that do the same below both directories where they meet nothing. -/
theorem operate {op op' : Operation}
    (whole : ∀ {fs fs' : Files}, Twins fs fs' root root' →
      Agree (fun _ _ ↦ Twins (op.whole fs).2 (op'.whole fs').2 root root')
        (op.whole fs).1 (op'.whole fs').1) :
    Alike root root' (fun _ _ ↦ True) (Job.operate op : Job σ Unit) (Job.operate op') := by
  intro w v alike
  rw [Job.operate, Job.operate, result_operateFor, result_operateFor]
  exact ((alike.files.apply whole).mapError _ _).bind fun _ _ twins ↦
    .ok ⟨trivial, twins, alike.service⟩

/-- Writing a file of the same names and the same text is alike in both directories. -/
theorem writeFile (isName : ∀ name ∈ names, Path.IsName name) (text : String) :
    Alike root root' (fun _ _ ↦ True) (Job.writeFile (root.descend names) text : Job σ Unit)
      (Job.writeFile (root'.descend names) text) :=
  operate fun twins ↦ Twins.agree_orElse (twins.write isName text)

/-- Making the script executable is alike in both directories. -/
theorem makeExecutable : Alike root root' (fun _ _ ↦ True)
    (Job.makeExecutable (root.child Template.startScript) : Job σ Unit)
    (Job.makeExecutable (root'.child Template.startScript)) :=
  operate fun twins ↦ Twins.agree_orElse twins.makeExecutable

/-- Making a directory of the same names is alike in both. -/
theorem makeDirectories (isName : ∀ name ∈ names, Path.IsName name) :
    Alike root root' (fun _ _ ↦ True) (Job.makeDirectories (root.descend names) : Job σ Unit)
      (Job.makeDirectories (root'.descend names)) :=
  operate fun twins ↦ twins.makeDirectories isName

/-- The names of a request depend on the augmentor alone, and one of them is an identifier. -/
theorem resolve (resolver : Naming.Resolver σ) (r : Request) :
    Alike root root' (fun n n' ↦ n' = n ∧ Naming.IsIdentifier n.identifier)
      (Job.resolve resolver r) (Job.resolve resolver r) := by
  intro w v alike
  rcases resolved : resolver.resolve r w.service with ⟨outcome, service⟩
  rw [result_resolve resolved, result_resolve (alike.service ▸ resolved)]
  cases outcome with
  | error e => exact .error
  | ok naming => exact .ok ⟨⟨rfl, Naming.Resolver.isIdentifier resolved⟩, alike.files, rfl⟩

end Job.Alike

/-! ### Walks into two directories -/

/-- Two summaries tell the same of walks into two directories: the same tools, in files that the
same names lead to. -/
structure Summary.Alike (root root' : Path) (s s' : Summary) : Prop where
  /-- The files are those of the same tools. -/
  written : ∃ kept : List Placement,
    s.written = kept.map (·.file root) ∧ s'.written = kept.map (·.file root')
  /-- As many folders were counted. -/
  folders : s'.foldersCreated = s.foldersCreated
  /-- As many requests were passed over. -/
  skipped : s'.requestsSkipped = s.requestsSkipped
  /-- The same identifiers are in use. -/
  identifiers : s'.identifiers = s.identifiers

namespace Summary.Alike

variable {s s' : Summary}

theorem empty : Alike root root' {} {} :=
  ⟨⟨[], rfl, rfl⟩, rfl, rfl, rfl⟩

/-- Summaries that are alike tell of the same tools. -/
theorem artifacts_eq (h : Alike root root' s s') : s'.artifacts = s.artifacts := by
  obtain ⟨kept, written, written'⟩ := h.written
  rw [← s'.map_artifact_written, ← s.map_artifact_written, written, written', List.map_map,
    List.map_map]
  rfl

/-- Tools that are put at the same names keep summaries alike. -/
theorem add (h : Alike root root' s s') (p : Placement) :
    Alike root root' (s.add (p.file root)) (s'.add (p.file root')) := by
  obtain ⟨kept, written, written'⟩ := h.written
  obtain ⟨kept', put⟩ := exists_put_files p kept
  refine ⟨⟨kept', ?_, ?_⟩, ?_, ?_, ?_⟩
  · rw [written_add, written, put]
  · rw [written_add, written', put]
  · rw [foldersCreated_add, foldersCreated_add, h.folders]
  · rw [requestsSkipped_add, requestsSkipped_add, h.skipped]
  · rw [identifiers_add, identifiers_add, h.identifiers]
    rfl

end Summary.Alike

namespace Walker

variable {walker : Walker σ} {s s' : Summary} {base : List String}

/-- A tool that is written into both directories and told of. -/
theorem alike_writeTool (h : s.Alike (root.descend base) (root'.descend base) s') {p : Placement}
    (isName : ∀ name ∈ base ++ p.names, Path.IsName name) :
    Job.Alike root root' (Summary.Alike (root.descend base) (root'.descend base))
      (do Job.writeFile (p.file (root.descend base)).path p.artifact.render
          return s.add (p.file (root.descend base)) : Job σ Summary)
      (do Job.writeFile (p.file (root'.descend base)).path p.artifact.render
          return s'.add (p.file (root'.descend base))) := by
  have path (root : Path) : (p.file (root.descend base)).path = root.descend (base ++ p.names) :=
    root.descend_descend base p.names
  rw [path root, path root']
  exact (Job.Alike.writeFile isName p.artifact.render).bind fun _ _ _ ↦ .pure (h.add p)

/-- What is done for a node in both directories. -/
theorem alike_step (isBase : ∀ name ∈ base, Path.IsName name)
    (h : s.Alike (root.descend base) (root'.descend base) s') {e : Item × List String}
    (isName : ∀ name ∈ e.2, Path.IsName name) :
    Job.Alike root root' (Summary.Alike (root.descend base) (root'.descend base))
      (walker.step s (stepAt (root.descend base) e))
      (walker.step s' (stepAt (root'.descend base) e)) := by
  have skipped : Summary.Alike (root.descend base) (root'.descend base)
      { s with requestsSkipped := s.requestsSkipped + 1 }
      { s' with requestsSkipped := s'.requestsSkipped + 1 } :=
    ⟨h.written, h.folders, congrArg (· + 1) h.skipped, h.identifiers⟩
  obtain ⟨item, folders⟩ := e
  cases item with
  | folder name children =>
    rw [stepAt, stepAt, root.descend_descend, root'.descend_descend]
    have isPath := List.forall_mem_append.2 ⟨isBase, List.forall_mem_append.2
      ⟨isName, List.forall_mem_singleton.2 (isDirectoryName_folderName name).isName⟩⟩
    exact (Job.Alike.makeDirectories isPath).bind fun _ _ _ ↦
      .pure ⟨h.written, congrArg (· + 1) h.folders, h.skipped, h.identifiers⟩
  | request r =>
    rw [stepAt, stepAt]
    cases r.payload.isSome with
    | false => exact .pure skipped
    | true =>
      refine (Job.Alike.resolve walker.resolver r).bind ?_
      rintro _ naming ⟨rfl, plain⟩
      cases compiled : Compile.artifact? r naming with
      | none => exact .pure skipped
      | some a =>
        -- Both tools are settled among the same identifiers, so they are one.
        let p : Placement := {
          request := r, folders, naming
          artifact := { a with name := settle walker.collision s.identifiers a.name } }
        have isPath : ∀ name ∈ base ++ p.names, Path.IsName name := by
          refine List.forall_mem_append.2 ⟨isBase, List.forall_mem_append.2
            ⟨isName, List.forall_mem_singleton.2 (isName_fileName (isIdentifier_settle _ _ ?_))⟩⟩
          rw [name_compiled compiled]
          exact plain
        have file (start : Path) :
            p.file start = ⟨(start.descend folders).child p.artifact.fileName, p.artifact⟩ := by
          rw [start.descend_child]
          rfl
        have written := alike_writeTool (σ := σ) h isPath
        rw [file, file] at written
        simp only [h.identifiers]
        exact written

/-- What is done for several nodes in both directories. -/
theorem alike_steps (isBase : ∀ name ∈ base, Path.IsName name)
    (h : s.Alike (root.descend base) (root'.descend base) s') {nodes : List (Item × List String)}
    (isName : ∀ e ∈ nodes, ∀ name ∈ e.2, Path.IsName name) :
    Job.Alike root root' (Summary.Alike (root.descend base) (root'.descend base))
      (walker.steps s (nodes.map (stepAt (root.descend base))))
      (walker.steps s' (nodes.map (stepAt (root'.descend base)))) := by
  induction nodes generalizing s s' with
  | nil => exact .pure h
  | cons e nodes ih =>
    obtain ⟨first, rest⟩ := List.forall_mem_cons.1 isName
    exact (alike_step isBase h first).bind fun _ _ alike ↦ ih alike rest

/-- Walks of a collection into two directories tell the same. -/
theorem alike_walkCollection (walker : Walker σ) (c : Collection)
    (isBase : ∀ name ∈ base, Path.IsName name) :
    Job.Alike root root' (Summary.Alike (root.descend base) (root'.descend base))
      (walker.walkCollection c (root.descend base))
      (walker.walkCollection c (root'.descend base)) := by
  refine (Job.Alike.makeDirectories isBase).bind fun _ _ _ ↦ ?_
  rw [walk, walk, plan_within, plan_within]
  exact alike_steps isBase .empty fun e he name hname ↦
    (isDirectoryName_of_mem_preorderAll (fun _ h ↦ absurd h List.not_mem_nil) c.items e he name
      hname).isName

end Walker

/-! ### Servers in two directories -/

section Extras

variable (context : Context)

/-- Writing the file of a template is alike in both directories, if only the script has to be
executable. -/
theorem alike_writeTemplate {t : Template} (isName : Path.IsName t.file)
    (script : t.executable = true → t.file = Template.startScript) :
    Job.Alike root root' (fun _ _ ↦ True) (writeTemplate root context t : Job σ Path)
      (writeTemplate root' context t) := by
  rw [writeTemplate, writeTemplate]
  cases context.render t.source with
  | error reason => exact .throw
  | ok text =>
    refine (Job.Alike.writeFile (List.forall_mem_singleton.2 isName) text).bind fun _ _ _ ↦ ?_
    cases executable : t.executable with
    | false => exact .pure trivial
    | true =>
      rw [script executable]
      exact Job.Alike.makeExecutable.bind fun _ _ _ ↦ .pure trivial

/-- Writing the files of several templates is alike. -/
theorem alike_writeTemplates {ts : List Template}
    (proper : ∀ t ∈ ts, Path.IsName t.file ∧
      (t.executable = true → t.file = Template.startScript)) :
    Job.Alike root root' (fun _ _ ↦ True) (writeTemplates root context ts : Job σ (List Path))
      (writeTemplates root' context ts) := by
  induction ts with
  | nil => exact .pure trivial
  | cons t ts ih =>
    obtain ⟨⟨isName, script⟩, rest⟩ := List.forall_mem_cons.1 proper
    exact (alike_writeTemplate context isName script).bind fun _ _ _ ↦
      (ih rest).bind fun _ _ _ ↦ .pure trivial

/-- Each template has the name of a file, and only the script can be executed. -/
theorem proper_of_mem_all : ∀ t ∈ Template.all, Path.IsName t.file ∧
    (t.executable = true → t.file = Template.startScript) := by
  decide

/-- Writing the manifest is alike. -/
theorem alike_writeManifest (m : Manifest) : Job.Alike root root' (fun _ _ ↦ True)
    (writeManifest root m : Job σ Path) (writeManifest root' m) := by
  have isName : Path.IsName Manifest.fileName := by decide
  exact (Job.Alike.writeFile (List.forall_mem_singleton.2 isName) m.render).bind fun _ _ _ ↦
    .pure trivial

/-- Writing all files besides the tools is alike. -/
theorem alike_writeExtras (tools : List String) :
    Job.Alike root root' (fun _ _ ↦ True) (writeExtras root context tools : Job σ (List Path))
      (writeExtras root' context tools) :=
  (alike_writeTemplates context proper_of_mem_all).bind fun _ _ _ ↦
    (alike_writeManifest _).bind fun _ _ _ ↦ .pure trivial

end Extras

/-- Servers that are written into two directories that hold the same are the same, and the same is
told of their tools. -/
theorem Generator.alike_writeServer (g : Generator σ) (c : Collection) (name : String) :
    Job.Alike root root' (Summary.Alike (root.child toolsDirectory) (root'.child toolsDirectory))
      (g.writeServer c name root) (g.writeServer c name root') := by
  have isName : Path.IsName toolsDirectory := by decide
  refine (Walker.alike_walkCollection g.toWalker c (List.forall_mem_singleton.2 isName)).bind
    fun s s' alike ↦ ?_
  rw [alike.artifacts_eq]
  exact (alike_writeExtras _ _).bind fun _ _ _ ↦ .pure alike

end Toolsmith.Generation
