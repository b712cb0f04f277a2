import Toolsmith.Generation.Generator
import Toolsmith.Proofs.Generation.Job
import Toolsmith.Proofs.Generation.Manifest
import Toolsmith.Proofs.Generation.Stored
import Toolsmith.Proofs.Generation.Template

/-!
# The files of a server besides its tools

The files made from templates and the manifest stand next to the directory of the tools, which
they leave alone. Writing them fails only where a directory is in the way: the templates render
whatever the server is, and the names are short.

## Main definitions

* `Generation.Rendered`: the file of a template is there.
* `Generation.Ready`: no directory is in the way.

## Main statements

* `writeTemplates_induction`: what templates do to the files.
* `Stored.writeExtras`: the tools stay as they are, and the manifest can be loaded.
* `rendered_of_writeExtras`: the files of the templates are there.
* `executable_of_writeExtras`: the script that starts the server can be executed.
* `Generator.writeServer_eq_ok`: what a server that was written consists of.
* `Ready.writeExtras`: the files are written.
-/

namespace Toolsmith.Generation

variable {σ : Type} {w w' : World σ} {directory : Path} {ws : List Written} {context : Context}

/-! ### Templates taken apart -/

/-- A template that was written is a text file, which was made executable where it has to be. -/
theorem writeTemplate_eq_ok {t : Template} {p : Path}
    (run : (writeTemplate directory context t).perform w = (.ok p, w')) :
    ∃ text w₁, context.render t.source = .ok text ∧
      (Job.writeFile (directory.child t.file) text).perform w = (.ok (), w₁) ∧
      (t.executable = false ∧ w' = w₁ ∨ t.executable = true ∧
        (Job.makeExecutable (directory.child t.file)).perform w₁ = (.ok (), w')) := by
  rw [writeTemplate] at run
  cases rendered : context.render t.source with
  | error reason =>
    rw [rendered] at run
    cases run
  | ok text =>
    rw [rendered] at run
    obtain ⟨_, w₁, written, rest⟩ := Job.bind_eq_ok run
    refine ⟨text, w₁, rfl, written, ?_⟩
    cases executable : t.executable with
    | false =>
      rw [executable] at rest
      obtain ⟨-, rfl⟩ := Job.pure_eq_ok rest
      exact .inl ⟨rfl, rfl⟩
    | true =>
      rw [executable] at rest
      obtain ⟨_, w₂, marked, last⟩ := Job.bind_eq_ok rest
      obtain ⟨-, rfl⟩ := Job.pure_eq_ok last
      exact .inr ⟨rfl, marked⟩

/-- What holds of the files, whatever is put where some templates have theirs, holds of them after
the templates were written. -/
theorem writeTemplates_induction {motive : Files → Prop} {ts : List Template}
    (put : ∀ t ∈ ts, ∀ {files files' content}, motive files →
      files.Puts files' (directory.child t.file) content → motive files')
    (h : motive w.files) {ps : List Path}
    (run : (writeTemplates directory context ts).perform w = (.ok ps, w')) : motive w'.files := by
  induction ts generalizing w ps with
  | nil =>
    obtain ⟨-, rfl⟩ := Job.pure_eq_ok run
    exact h
  | cons t ts ih =>
    obtain ⟨_, w₁, once, after⟩ := Job.bind_eq_ok run
    obtain ⟨_, w₂, later, last⟩ := Job.bind_eq_ok after
    obtain ⟨-, rfl⟩ := Job.pure_eq_ok last
    refine ih (fun u hu ↦ put u (List.mem_cons_of_mem t hu)) ?_ later
    obtain ⟨text, w₃, -, written, ⟨-, rfl⟩ | ⟨-, marked⟩⟩ := writeTemplate_eq_ok once
    · exact put t List.mem_cons_self h (Job.writeFile_eq_ok written).1
    · -- The file is put a second time, with its mark.
      obtain ⟨once, -⟩ := Job.writeFile_eq_ok written
      obtain ⟨-, x, there⟩ := once.placed
      obtain ⟨⟨again, -⟩, -⟩ := Job.makeExecutable_eq_ok marked there
      exact put t List.mem_cons_self (put t List.mem_cons_self h once) again

/-- After the templates, the manifest was written. -/
theorem writeExtras_eq_ok {tools : List String} {ps : List Path}
    (run : (writeExtras directory context tools).perform w = (.ok ps, w')) :
    ∃ ps' w₁, (writeTemplates directory context Template.all).perform w = (.ok ps', w₁) ∧
      w₁.files.Puts w'.files (directory.child Manifest.fileName)
        (.text (Manifest.generated context.serverName context.mode tools).render) := by
  obtain ⟨ps', w₁, templates, rest⟩ := Job.bind_eq_ok run
  obtain ⟨_, w₂, manifest, last⟩ := Job.bind_eq_ok rest
  obtain ⟨-, rfl⟩ := Job.pure_eq_ok last
  obtain ⟨_, w₃, written, last⟩ := Job.bind_eq_ok manifest
  obtain ⟨-, rfl⟩ := Job.pure_eq_ok last
  exact ⟨ps', w₁, templates, (Job.writeFile_eq_ok written).1⟩

/-! ### The tools are left alone -/

variable {files files' : Files}

/-- A file of another name than the directory of the tools stands elsewhere. -/
theorem Stored.beside (h : Stored files (directory.child toolsDirectory) ws) {name : String}
    (other : name ≠ toolsDirectory) {content : Files.Content}
    (put : files.Puts files' (directory.child name) content) :
    Stored files' (directory.child toolsDirectory) ws := by
  refine h.elsewhere put fun below he ↦ other ?_
  rw [Files.locate_child, Files.locate_child, List.append_assoc] at he
  exact (List.cons.inj (List.append_cancel_left he)).1

/-- The files besides the tools leave the tools alone, and the manifest is one of them. -/
theorem Stored.writeExtras (h : Stored w.files (directory.child toolsDirectory) ws)
    {tools : List String} {ps : List Path}
    (run : (writeExtras directory context tools).perform w = (.ok ps, w')) :
    Stored w'.files (directory.child toolsDirectory) ws ∧
      Manifest.load w'.files directory =
        .ok (.generated context.serverName context.mode tools) := by
  obtain ⟨_, w₁, templates, put⟩ := writeExtras_eq_ok run
  have other : ∀ t ∈ Template.all, t.file ≠ toolsDirectory := by decide
  have h₁ := writeTemplates_induction
    (motive := fun files ↦ Stored files (directory.child toolsDirectory) ws)
    (fun t ht _ _ _ h put ↦ h.beside (other t ht) put) h templates
  obtain ⟨leads, x, there⟩ := put.placed
  exact ⟨h₁.beside (by decide) put, Manifest.load_eq_ok leads there⟩

/-! ### The files of the templates -/

/-- A file beside one that is put stays as it is. -/
theorem get?_beside {name other : String} (ne : name ≠ other) {content : Files.Content}
    (put : files.Puts files' (directory.child name) content) :
    files'.get? (files'.locate (directory.child other)) =
      files.get? (files.locate (directory.child other)) := by
  rw [put.locate_eq, put.get?_of_ne]
  rw [Files.locate_child, Files.locate_child]
  exact fun he ↦ ne (List.cons.inj (List.append_cancel_left he)).1

/-- The file of a template is there, with the text that the template has in a context, and can be
executed where it has to be. -/
def Rendered (files : Files) (directory : Path) (context : Context) (t : Template) : Prop :=
  ∃ text x, context.render t.source = .ok text ∧ (t.executable = true → x = true) ∧
    files.Leads (directory.child t.file) ∧
    files.get? (files.locate (directory.child t.file)) = some (.file (.text text) x)

theorem Rendered.beside {t : Template} (h : Rendered files directory context t) {name : String}
    (ne : name ≠ t.file) {content : Files.Content}
    (put : files.Puts files' (directory.child name) content) :
    Rendered files' directory context t := by
  obtain ⟨text, x, rendered, executable, leads, there⟩ := h
  refine ⟨text, x, rendered, executable, put.leads_mono leads, ?_⟩
  rw [get?_beside ne put]
  exact there

/-- The file of a template is there once it was written. -/
theorem rendered_of_writeTemplate {t : Template} {p : Path}
    (run : (writeTemplate directory context t).perform w = (.ok p, w')) :
    Rendered w'.files directory context t := by
  obtain ⟨text, w₁, rendered, written, marked⟩ := writeTemplate_eq_ok run
  obtain ⟨leads, x, there⟩ := (Job.writeFile_eq_ok written).1.placed
  rcases marked with ⟨plain, rfl⟩ | ⟨-, marked⟩
  · exact ⟨text, x, rendered, fun marked ↦ (nomatch plain.symm.trans marked), leads, there⟩
  · obtain ⟨⟨again, there⟩, -⟩ := Job.makeExecutable_eq_ok marked there
    exact ⟨text, true, rendered, fun _ ↦ rfl, again.leads_mono leads, there⟩

/-- The files of templates are there after all of them were written. -/
theorem rendered_of_writeTemplates {ts : List Template} (distinct : (ts.map (·.file)).Nodup)
    {ps : List Path} (run : (writeTemplates directory context ts).perform w = (.ok ps, w')) :
    ∀ t ∈ ts, Rendered w'.files directory context t := by
  induction ts generalizing w ps with
  | nil => exact fun _ ht ↦ absurd ht List.not_mem_nil
  | cons t ts ih =>
    obtain ⟨unused, rest⟩ := List.nodup_cons.1 distinct
    obtain ⟨_, w₁, once, after⟩ := Job.bind_eq_ok run
    obtain ⟨_, w₂, later, last⟩ := Job.bind_eq_ok after
    obtain ⟨-, rfl⟩ := Job.pure_eq_ok last
    refine List.forall_mem_cons.2 ⟨?_, ih rest later⟩
    -- The templates after this one have other files.
    exact writeTemplates_induction (motive := fun files ↦ Rendered files directory context t)
      (fun u hu _ _ _ h put ↦ h.beside (fun same ↦ unused (List.mem_map.2 ⟨u, hu, same⟩)) put)
      (rendered_of_writeTemplate once) later

/-- The files of the templates are there once the files of a server were written. -/
theorem rendered_of_writeExtras {tools : List String} {ps : List Path}
    (run : (writeExtras directory context tools).perform w = (.ok ps, w')) :
    ∀ t ∈ Template.all, Rendered w'.files directory context t := by
  obtain ⟨_, w₁, templates, put⟩ := writeExtras_eq_ok run
  have others : ∀ t ∈ Template.all, Manifest.fileName ≠ t.file := by decide
  exact fun t ht ↦ (rendered_of_writeTemplates (by decide) templates t ht).beside (others t ht) put

/-- The script that starts a server can be executed. -/
theorem executable_of_writeExtras {tools : List String} {ps : List Path}
    (run : (writeExtras directory context tools).perform w = (.ok ps, w')) :
    ∃ content, w'.files.get? (w'.files.locate (directory.child Template.startScript)) =
      some (.file content true) := by
  obtain ⟨text, x, -, executable, -, there⟩ :=
    rendered_of_writeExtras run Template.start (List.mem_of_getLast? rfl)
  rw [executable rfl] at there
  exact ⟨_, there⟩

/-! ### Servers -/

namespace Generator

variable {g : Generator σ} {c : Collection} {name : String} {s : Summary}

/-- What fills the slots of the templates, where a walk told of the tools. -/
def templateContext (g : Generator σ) (name : String) (s : Summary) : Context where
  serverName := name
  mode := g.mode
  environment := environmentNames s.artifacts

/-- A server that was written had its collection walked, and then the files besides the tools
written. -/
theorem writeServer_eq_ok (run : (g.writeServer c name directory).perform w = (.ok s, w')) :
    ∃ w₁ ps, (g.walkCollection c (directory.child toolsDirectory)).perform w = (.ok s, w₁) ∧
      (writeExtras directory (g.templateContext name s) (s.artifacts.map (·.name))).perform w₁ =
        (.ok ps, w') := by
  obtain ⟨s', w₁, walked, rest⟩ := Job.bind_eq_ok run
  obtain ⟨ps, w₂, extras, last⟩ := Job.bind_eq_ok rest
  obtain ⟨rfl, rfl⟩ := Job.pure_eq_ok last
  exact ⟨w₁, ps, walked, extras⟩

end Generator

/-! ### Nothing else fails -/

/-- The names of the files besides the tools. -/
def extraNames : List String :=
  Manifest.fileName :: Template.all.map (·.file)

/-- The directory of a server is there, no directory in it has the name of one of the files besides
the tools, and nothing happens to operations. -/
structure Ready (files : Files) (directory : Path) : Prop where
  /-- Nothing happens. -/
  healthy : files.faults = []
  /-- The path of the directory leads there. -/
  leads : files.Leads directory
  /-- It is there. -/
  there : files.get? (files.locate directory) = some .directory
  /-- No directory is in the way. -/
  free : ∀ name ∈ extraNames, files.get? (files.locate directory ++ [name]) ≠ some .directory

namespace Ready

variable {files files' : Files}

/-- Putting a file somewhere keeps a directory ready. -/
theorem put (h : Ready files directory) {p : Path} {content : Files.Content}
    (put : files.Puts files' p content) (healthy : files'.faults = []) :
    Ready files' directory := by
  refine ⟨healthy, put.leads_mono h.leads, ?_, fun name hn ↦ ?_⟩
  · rw [put.locate_eq]
    exact put.directory h.there
  · rw [put.locate_eq]
    exact put.ne_directory (h.free name hn)

theorem leads_child (h : Ready files directory) {name : String} (hn : name ∈ extraNames) :
    files.Leads (directory.child name) := by
  have short : ∀ name ∈ extraNames, Files.isTooLong name = false := by decide
  exact Files.leads_child_iff.2 ⟨h.leads, h.there, short name hn⟩

theorem free_child (h : Ready files directory) {name : String} (hn : name ∈ extraNames) :
    files.get? (files.locate (directory.child name)) ≠ some .directory := by
  rw [Files.locate_child]
  exact h.free name hn

/-- A file besides the tools is written, and stands there afterwards. -/
theorem writeFile (h : Ready w.files directory) {name : String} (hn : name ∈ extraNames)
    (text : String) :
    ∃ w', (Job.writeFile (directory.child name) text).perform w = (.ok (), w') ∧
      Ready w'.files directory ∧
      ∃ x, w'.files.get? (w'.files.locate (directory.child name)) =
        some (.file (.text text) x) := by
  obtain ⟨w', run, healthy⟩ :=
    Job.writeFile_of_leads h.healthy (h.leads_child hn) (h.free_child hn) text
  obtain ⟨put, -⟩ := Job.writeFile_eq_ok run
  obtain ⟨-, there⟩ := put.placed
  exact ⟨w', run, h.put put healthy, there⟩

theorem makeExecutable (h : Ready w.files directory) {name : String} (hn : name ∈ extraNames)
    {content : Files.Content} {x : Bool}
    (there : w.files.get? (w.files.locate (directory.child name)) = some (.file content x)) :
    ∃ w', (Job.makeExecutable (directory.child name)).perform w = (.ok (), w') ∧
      Ready w'.files directory := by
  obtain ⟨w', run, healthy⟩ := Job.makeExecutable_of_leads h.healthy (h.leads_child hn) there
  obtain ⟨⟨put, -⟩, -⟩ := Job.makeExecutable_eq_ok run there
  exact ⟨w', run, h.put put healthy⟩

theorem writeTemplate (h : Ready w.files directory) (context : Context) {t : Template}
    (ht : t ∈ Template.all) :
    ∃ p w', (writeTemplate directory context t).perform w = (.ok p, w') ∧
      Ready w'.files directory := by
  have hn : t.file ∈ extraNames := List.mem_cons_of_mem _ (List.mem_map_of_mem ht)
  obtain ⟨text, rendered⟩ := render_eq_ok context ht
  obtain ⟨w₁, written, ready, x, there⟩ := h.writeFile hn text
  rw [Generation.writeTemplate]
  simp only [rendered]
  cases t.executable with
  | false => exact ⟨_, w₁, Job.bind_of_ok written rfl, ready⟩
  | true =>
    obtain ⟨w₂, made, ready'⟩ := ready.makeExecutable hn there
    exact ⟨_, w₂, Job.bind_of_ok written (Job.bind_of_ok made rfl), ready'⟩

theorem writeTemplates (h : Ready w.files directory) (context : Context) {ts : List Template}
    (ht : ∀ t ∈ ts, t ∈ Template.all) :
    ∃ ps w', (writeTemplates directory context ts).perform w = (.ok ps, w') ∧
      Ready w'.files directory := by
  induction ts generalizing w with
  | nil => exact ⟨[], w, rfl, h⟩
  | cons t ts ih =>
    obtain ⟨first, rest⟩ := List.forall_mem_cons.1 ht
    obtain ⟨p, w₁, once, ready⟩ := h.writeTemplate context first
    obtain ⟨ps, w₂, later, ready'⟩ := ih ready rest
    exact ⟨p :: ps, w₂, Job.bind_of_ok once (Job.bind_of_ok later rfl), ready'⟩

/-- The files besides the tools are written into a directory that is ready, and it is ready to have
them written again. -/
theorem writeExtras (h : Ready w.files directory) (context : Context) (tools : List String) :
    ∃ ps w', (writeExtras directory context tools).perform w = (.ok ps, w') ∧
      Ready w'.files directory := by
  obtain ⟨ps, w₁, templates, ready⟩ := h.writeTemplates context fun _ ht ↦ ht
  obtain ⟨w₂, manifest, ready', -⟩ := ready.writeFile List.mem_cons_self
    (Manifest.generated context.serverName context.mode tools).render
  exact ⟨_, w₂, Job.bind_of_ok templates (Job.bind_of_ok (Job.bind_of_ok manifest rfl) rfl),
    ready'⟩

end Ready

end Toolsmith.Generation
