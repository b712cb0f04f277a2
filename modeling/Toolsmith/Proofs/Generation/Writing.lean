import Toolsmith.Proofs.Generation.Course
import Toolsmith.Proofs.Generation.Extras

/-!
# What a generation writes

A generation into a directory never looks at the files either. It makes the directories, does what
the walk does, writes the files made from templates, and last of all the manifest. Where the walk
ends before, nothing comes after it. No operation but the last one is about the place of the
manifest.

## Main definitions

* `Generation.Templated`: an operation is about a file that is made from a template.
* `Generation.Spares`: an operation is not about the manifest of a server.
* `Generation.walkOperations`: what a generation does before the files besides the tools.
* `Generation.reportOf`: what is reported of a walk.

## Main statements

* `does_writeExtras`: what is done for the files besides the tools.
* `Generator.does_generate`: what a generation does whose walk succeeds.
* `Walker.Stops.does_generate`: what it does where the walk ends before.
* `Generator.exists_does_of_ok`: what a generation did that succeeded.
* `Generator.exists_does_writeServer`: a server is written by what is done in one way or the other.
* `get?_performAll_of_spares`: what stands at the place of the manifest stays there.
-/

namespace Toolsmith.Generation

open Collection (Item Request)
open Files (Operation)

variable {σ : Type} {directory : Path} {context : Context}

/-! ### Files besides the tools -/

/-- An operation is about a file that is made from a template. -/
def Templated (directory : Path) (ts : List Template) (op : Operation) : Prop :=
  (∀ p, op ≠ .makeDirectories p) ∧ ∃ t ∈ ts, op.path = directory.child t.file

/-- A template is written, and made executable where it has to be. -/
theorem does_writeTemplate (directory : Path) (context : Context) {t : Template}
    (ht : t ∈ Template.all) :
    ∃ ops, (∀ op ∈ ops, Templated directory [t] op) ∧ ∀ service : σ,
      (writeTemplate directory context t).Does service ops (.ok (directory.child t.file))
        service := by
  obtain ⟨text, rendered⟩ := render_eq_ok context ht
  have written : Templated directory [t] (.write (directory.child t.file) (.text text)) :=
    ⟨nofun, t, List.mem_cons_self, rfl⟩
  have marked : Templated directory [t] (.makeExecutable (directory.child t.file)) :=
    ⟨nofun, t, List.mem_cons_self, rfl⟩
  by_cases executable : t.executable = true
  · refine ⟨[_, _], List.forall_mem_cons.2 ⟨written, List.forall_mem_singleton.2 marked⟩,
      fun service ↦ ?_⟩
    rw [writeTemplate]
    simp only [rendered, executable, if_true]
    exact (Job.Does.operate (.write _ (.text text)) service).bind
      ((Job.Does.operate (.makeExecutable _) service).map fun _ ↦ _)
  · refine ⟨[_], List.forall_mem_singleton.2 written, fun service ↦ ?_⟩
    rw [writeTemplate]
    simp only [rendered, executable, Bool.false_eq_true, if_false]
    exact (Job.Does.operate (.write _ (.text text)) service).map fun _ ↦ _

theorem does_writeTemplates (directory : Path) (context : Context) {ts : List Template}
    (ht : ∀ t ∈ ts, t ∈ Template.all) :
    ∃ ops, (∀ op ∈ ops, Templated directory ts op) ∧ ∀ service : σ,
      (writeTemplates directory context ts).Does service ops
        (.ok (ts.map fun t ↦ directory.child t.file)) service := by
  induction ts with
  | nil => exact ⟨[], fun _ h ↦ absurd h List.not_mem_nil, fun service ↦ .pure [] service⟩
  | cons t ts ih =>
    obtain ⟨first, rest⟩ := List.forall_mem_cons.1 ht
    obtain ⟨ops, one, once⟩ := does_writeTemplate (σ := σ) directory context first
    obtain ⟨more, others, later⟩ := ih rest
    refine ⟨ops ++ more, List.forall_mem_append.2 ⟨fun op hop ↦ ?_, fun op hop ↦ ?_⟩,
      fun service ↦ (once service).bind ((later service).map _)⟩
    · obtain ⟨file, u, hu, path⟩ := one op hop
      rw [List.mem_singleton.1 hu] at path
      exact ⟨file, t, List.mem_cons_self, path⟩
    · obtain ⟨file, u, hu, path⟩ := others op hop
      exact ⟨file, u, List.mem_cons_of_mem t hu, path⟩

/-- The manifest of a server is written. -/
def writingManifest (directory : Path) (m : Manifest) : Operation :=
  .write (directory.child Manifest.fileName) (.text m.render)

/-- The manifest is written after the files that are made from templates. -/
theorem does_writeExtras (directory : Path) (context : Context) (tools : List String) :
    ∃ ops paths, (∀ op ∈ ops, Templated directory Template.all op) ∧ ∀ service : σ,
      (writeExtras directory context tools).Does service
        (ops ++ [writingManifest directory (.generated context.serverName context.mode tools)])
        (.ok paths) service := by
  obtain ⟨ops, templated, templates⟩ :=
    does_writeTemplates (σ := σ) directory context fun _ h ↦ h
  have manifest (m : Manifest) (service : σ) : (writeManifest directory m).Does service
      [writingManifest directory m] (.ok (directory.child Manifest.fileName)) service :=
    (Job.Does.operate _ service).map fun _ ↦ _
  exact ⟨ops, Template.all.map (fun t ↦ directory.child t.file) ++
    [directory.child Manifest.fileName], templated,
    fun service ↦ (templates service).bind ((manifest _ service).map _)⟩

/-! ### Generations -/

/-- What a generation does for the tools: it makes the directory of the server and walks into that
of the tools. -/
def walkOperations (directory : Path) (nodes : List (Item × List String))
    (placed : List Placement) : List Operation :=
  .makeDirectories directory :: .makeDirectories (directory.child toolsDirectory) ::
    operations (directory.child toolsDirectory) nodes placed

/-- What is reported of a walk of a collection. -/
def reportOf (c : Collection) (s : Summary) (output : Path) : Report where
  serverName := serverName (c.name.getD "")
  tools := s.artifacts.map (·.name)
  skipped := s.requestsSkipped
  output := output

namespace Generator

variable (g : Generator σ) {c : Collection} {name : String} {placed : List Placement}

/-- The walk of a generation, once the directory is made. -/
theorem does_walk (directory : Path) {service service' : σ}
    (places : g.toWalker.Places [] service (visits c.items) placed service') :
    (do Job.makeDirectories directory
        g.walkCollection c (directory.child toolsDirectory)).Does service
      (walkOperations directory (preorderAll [] c.items) placed)
      (.ok (tally (directory.child toolsDirectory) {} (preorderAll [] c.items) placed)) service' :=
  (Job.Does.operate (.makeDirectories directory) service).bind (Walker.does_walkCollection _ places)

/-- A server whose walk succeeds is written as follows from its tools, and the manifest comes
last. -/
theorem does_writeServer (c : Collection) (name : String) (directory : Path)
    (placed : List Placement) :
    ∃ ops s, (∀ op ∈ ops, Templated directory Template.all op) ∧
      s = tally (directory.child toolsDirectory) {} (preorderAll [] c.items) placed ∧
      ∀ service service', g.toWalker.Places [] service (visits c.items) placed service' →
        (g.writeServer c name directory).Does service
          (.makeDirectories (directory.child toolsDirectory) ::
              operations (directory.child toolsDirectory) (preorderAll [] c.items) placed ++
            (ops ++ [writingManifest directory
              (.generated name g.mode (s.artifacts.map (·.name)))]))
          (.ok s) service' := by
  let s := tally (directory.child toolsDirectory) {} (preorderAll [] c.items) placed
  obtain ⟨ops, paths, templated, extras⟩ := does_writeExtras (σ := σ) directory
    (g.templateContext name s) (s.artifacts.map (·.name))
  refine ⟨ops, s, templated, rfl, fun service service' places ↦ ?_⟩
  have walked := Walker.does_walkCollection (directory.child toolsDirectory) places
  exact walked.bind ((extras service').map fun _ ↦ s)

/-- A generation whose walk succeeds does what follows from its tools, and the manifest comes
last. -/
theorem does_generate (c : Collection) (directory : Path) (placed : List Placement) :
    ∃ ops r, (∀ op ∈ ops, Templated directory Template.all op) ∧
      r = reportOf c (tally (directory.child toolsDirectory) {} (preorderAll [] c.items) placed)
        directory ∧
      ∀ service service', g.toWalker.Places [] service (visits c.items) placed service' →
        (g.generate c (.directory directory)).Does service
          (walkOperations directory (preorderAll [] c.items) placed ++ ops ++
            [writingManifest directory (.generated r.serverName g.mode r.tools)])
          (.ok r) service' := by
  obtain ⟨ops, s, templated, rfl, server⟩ :=
    g.does_writeServer c (serverName (c.name.getD "")) directory placed
  refine ⟨ops, _, templated, rfl, fun service service' places ↦ ?_⟩
  have written : (g.writeTo c (serverName (c.name.getD "")) (.directory directory)).Does service _
      (.ok _) service' :=
    (Job.Does.operate (.makeDirectories directory) service).bind (server _ _ places)
  rw [List.append_assoc]
  exact written.map _

end Generator

namespace Walker.Stops

variable {g : Generator σ} {c : Collection} {service service' : σ} {placed : List Placement}
  {r : Request} {e : Naming.AugmentError}

/-- A server whose walk ends before is not written any further. -/
theorem does_writeServer
    (h : g.toWalker.Stops [] service (visits c.items) placed r e service') (name : String)
    (directory : Path) :
    ∃ before, (g.writeServer c name directory).Does service
      (.makeDirectories (directory.child toolsDirectory) ::
        operations (directory.child toolsDirectory) before placed)
      (.error (.augment (r.name.getD "") e)) service' := by
  obtain ⟨before, folders, after, split, payload, first⟩ := h.exists_nodes
  have walked := h.does_walkCollection split payload first (directory.child toolsDirectory)
  exact ⟨before, walked.bind_error _⟩

/-- A generation whose walk ends before does nothing after it. -/
theorem does_generate (h : g.toWalker.Stops [] service (visits c.items) placed r e service')
    (directory : Path) :
    ∃ before, (g.generate c (.directory directory)).Does service
      (walkOperations directory before placed) (.error (.augment (r.name.getD "") e)) service' := by
  obtain ⟨before, server⟩ := h.does_writeServer (serverName (c.name.getD "")) directory
  have written : (g.writeTo c (serverName (c.name.getD "")) (.directory directory)).Does service _
      (.error (.augment (r.name.getD "") e)) service' :=
    (Job.Does.operate (.makeDirectories directory) service).bind server
  exact ⟨before, written.bind_error _⟩

end Walker.Stops

/-- What a generation did that succeeded: its walk succeeds by itself, and all that follows from the
tools was done. -/
theorem Generator.exists_does_of_ok {g : Generator σ} {c : Collection} {directory : Path}
    {w w' : World σ} {r : Report}
    (run : (g.generate c (.directory directory)).perform w = (.ok r, w')) :
    ∃ placed service' ops,
      g.toWalker.Places [] w.service (visits c.items) placed service' ∧
      (∀ op ∈ ops, Templated directory Template.all op) ∧
      r = reportOf c (tally (directory.child toolsDirectory) {} (preorderAll [] c.items) placed)
        directory ∧
      (∀ service service', g.toWalker.Places [] service (visits c.items) placed service' →
        (g.generate c (.directory directory)).Does service
          (walkOperations directory (preorderAll [] c.items) placed ++ ops ++
            [writingManifest directory (.generated r.serverName g.mode r.tools)])
          (.ok r) service') ∧
      w.files.performAll (walkOperations directory (preorderAll [] c.items) placed ++ ops ++
        [writingManifest directory (.generated r.serverName g.mode r.tools)]) =
          (.ok (), w'.files) := by
  rcases g.places_or_stops [] w.service (isSome_of_mem_visits c.items) with
    ⟨placed, service', places⟩ | ⟨placed, r, e, service', stops⟩
  · obtain ⟨ops, r, templated, reported, does⟩ := g.does_generate c directory placed
    obtain ⟨done, told, -⟩ := (does _ _ places).of_ne_write run nofun
    obtain rfl := Except.ok.inj told
    exact ⟨placed, service', ops, places, templated, reported, does, done⟩
  · obtain ⟨before, does⟩ := stops.does_generate directory
    obtain ⟨-, failed, -⟩ := does.of_ne_write run nofun
    exact nomatch failed

/-- A server is written by what is done in one way or the other. -/
theorem Generator.exists_does_writeServer (g : Generator σ) (c : Collection) (name : String)
    (directory : Path) (service : σ) :
    ∃ ops outcome service', (g.writeServer c name directory).Does service ops outcome service' := by
  rcases g.places_or_stops [] service (isSome_of_mem_visits c.items) with
    ⟨placed, service', places⟩ | ⟨placed, r, e, service', stops⟩
  · obtain ⟨_, _, -, -, server⟩ := g.does_writeServer c name directory placed
    exact ⟨_, _, _, server _ _ places⟩
  · obtain ⟨_, server⟩ := stops.does_writeServer name directory
    exact ⟨_, _, _, server⟩

/-! ### The place of the manifest -/

/-- An operation is not about the manifest of a server: it makes the directory of the server, or it
is about the tools or a template. -/
inductive Spares (directory : Path) : Operation → Prop
  /-- The directory of the server is made. -/
  | directory : Spares directory (.makeDirectories directory)
  /-- The tools are. -/
  | tools {op : Operation} (names : List String)
      (path : op.path = (directory.child toolsDirectory).descend names) : Spares directory op
  /-- A template is. -/
  | template {op : Operation} (h : Templated directory Template.all op) : Spares directory op

theorem spares_walkOperations (directory : Path) (nodes : List (Item × List String))
    (placed : List Placement) : ∀ op ∈ walkOperations directory nodes placed,
      Spares directory op := by
  refine List.forall_mem_cons.2 ⟨.directory, List.forall_mem_cons.2 ⟨?_, fun op hop ↦ ?_⟩⟩
  · exact .tools [] (Path.descend_nil _).symm
  · rcases mem_operations hop with ⟨_, -, names, -, rfl⟩ | ⟨p, -, rfl⟩
    · exact .tools names rfl
    · exact .tools p.names rfl

/-- What stands beside the directory of the tools is not in it. -/
theorem locate_child_ne {name : String} (other : name ≠ toolsDirectory) (fs : Files)
    (names : List String) :
    fs.locate (directory.child name) ≠
      fs.locate ((directory.child toolsDirectory).descend names) := by
  rw [Files.locate_descend, Files.locate_child, Files.locate_child, List.append_assoc]
  exact fun here ↦ other (List.cons.inj (List.append_cancel_left here)).1

namespace Spares

variable {op : Operation} {p : Path}

/-- An operation on a file that is not about the manifest is about another place. -/
theorem locate_ne (h : Spares directory op) (file : ∀ p, op ≠ .makeDirectories p) (fs : Files) :
    fs.locate (directory.child Manifest.fileName) ≠ fs.locate op.path := by
  have others : ∀ t ∈ Template.all, t.file ≠ Manifest.fileName := by decide
  obtain _ | ⟨names, path⟩ | ⟨-, t, ht, path⟩ := h
  · exact absurd rfl (file directory)
  · rw [path]
    exact locate_child_ne (by decide) fs names
  · rw [path, Files.locate_child, Files.locate_child]
    exact fun here ↦ others t ht (List.cons.inj (List.append_cancel_left here)).1.symm

/-- Directories are made for the server, or for what is in that of the tools. -/
theorem eq_or_exists_descend (h : Spares directory (.makeDirectories p)) :
    p = directory ∨ ∃ names, p = (directory.child toolsDirectory).descend names := by
  obtain _ | ⟨names, path⟩ | ⟨other, -⟩ := h
  · exact .inl rfl
  · exact .inr ⟨names, path⟩
  · exact absurd rfl (other p)

/-- The path of a directory that is made makes the detours of that of the server. -/
theorem detours_eq (h : Spares directory (.makeDirectories p)) (fs : Files) :
    fs.detours p = fs.detours directory := by
  obtain rfl | ⟨names, rfl⟩ := h.eq_or_exists_descend
  · rfl
  · rw [Files.detours_descend, Files.detours_child]

/-- It does not lead to the manifest, or beyond. -/
theorem not_prefix_locate (h : Spares directory (.makeDirectories p)) (fs : Files) :
    ¬ fs.locate (directory.child Manifest.fileName) <+: fs.locate p := by
  have apart : Manifest.fileName ≠ toolsDirectory := by decide
  rw [Files.locate_child]
  intro front
  obtain rfl | ⟨names, rfl⟩ := h.eq_or_exists_descend
  · have shorter := front.length_le
    rw [List.length_append, List.length_singleton] at shorter
    exact absurd shorter (Nat.not_succ_le_self _)
  · rw [Files.locate_descend, Files.locate_child, List.append_assoc,
      List.prefix_append_right_inj] at front
    exact apart (List.cons_prefix_cons.1 front).1

end Spares

/-- What stands at the place of the manifest stays there, also where an operation fails. Where
nothing does, a directory may be made there, if the path of the server leads through it. -/
theorem get?_performAll_of_spares (fs : Files) {ops : List Operation}
    (h : ∀ op ∈ ops, Spares directory op) :
    (fs.performAll ops).2.get? (fs.locate (directory.child Manifest.fileName)) =
        fs.get? (fs.locate (directory.child Manifest.fileName)) ∨
      (∃ way ∈ fs.detours directory, fs.locate (directory.child Manifest.fileName) <+: way) ∧
        fs.get? (fs.locate (directory.child Manifest.fileName)) = none ∧
        (fs.performAll ops).2.get? (fs.locate (directory.child Manifest.fileName)) =
          some .directory := by
  rcases fs.get?_performAll ops (fs.locate (directory.child Manifest.fileName)) with same |
    ⟨p, hop, ⟨goal, hg, front⟩, free, made⟩ | ⟨op, hop, _, _, here, file, -⟩
  · exact .inl same
  · refine .inr ⟨⟨goal, ?_, front⟩, free, made⟩
    rcases List.mem_append.1 hg with way | last
    · rwa [(h _ hop).detours_eq] at way
    · rw [List.mem_singleton.1 last] at front
      exact absurd front ((h _ hop).not_prefix_locate fs)
  · exact absurd here ((h _ hop).locate_ne file fs)

end Toolsmith.Generation
