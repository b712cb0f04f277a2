import Toolsmith.Proofs.Generation.Progress
import Toolsmith.Proofs.Generation.Serve

/-!
# Servers generated anew

A server may be generated into a directory that another one was generated into. Nothing is removed
there: a tool takes the place of an earlier one whose file has its path, and the other earlier tools
are left over. The manifest tells of the later collection alone, but tools are found by their files,
so those that are left over are served too.

The run is compared with one of the same collection into an empty directory. The tools that a
collection leads to do not depend on the directory, and neither do the names that lead from there to
their files, which decide what is served where several tools have one name.

## Main definitions

* `Generation.leftovers`: the files of a walk that a later one did not write.
* `CommandLine.Serve.Relisted`: what a server lists beside one without tools left over.

## Main statements

* `Generation.Generator.regenerate_eq_ok`: what two runs left behind.
* `Generation.Generator.generate_over`: a run over the files of another one.
* `CommandLine.Serve.load_regenerated`: what is served after two runs.
* `CommandLine.Serve.load_regenerated_fails`: a tool that is left over is served.
-/

namespace Toolsmith

namespace Generation

/-! ### Files left over -/

/-- The files of an earlier walk that a later one did not write. -/
def leftovers (earlier later : Summary) : List Written :=
  earlier.written.filter fun f ↦ f.path ∉ later.written.map (·.path)

section Leftovers

variable {earlier later : Summary} {fs : List Written} {f : Written}

theorem mem_leftovers : f ∈ leftovers earlier later ↔
    f ∈ earlier.written ∧ f.path ∉ later.written.map (·.path) := by
  rw [leftovers, List.mem_filter, decide_eq_true_iff]

/-- What is there after a later walk are its own files and those left over. -/
theorem mem_putAll_iff_leftovers (distinct : (earlier.written.map (·.path)).Nodup)
    (written : later.written = Summary.putAll [] fs) :
    f ∈ Summary.putAll earlier.written fs ↔ f ∈ later.written ++ leftovers earlier later := by
  have none : (([] : List Written).map (·.path)).Nodup := List.nodup_nil
  have own : f ∈ later.written ↔ Stands (· = f) (·.path = f.path) fs := by
    rw [written, Summary.mem_putAll none]
    exact or_iff_left fun old ↦ List.not_mem_nil old.1
  have paths : f.path ∈ later.written.map (·.path) ↔ f.path ∈ fs.map (·.path) := by
    rw [written, Summary.paths_putAll, List.mem_eraseDups]
  rw [Summary.mem_putAll distinct, List.mem_append, own, mem_leftovers, paths]

end Leftovers

/-! ### Files that do not depend on the directory -/

section Files

/-- Which files are kept when one is put among them does not depend on the directory. -/
theorem exists_put_files (p : Placement) (kept : List Placement) :
    ∃ kept' : List Placement, ∀ root,
      Summary.put (p.file root) (kept.map (·.file root)) = kept'.map (·.file root) := by
  induction kept with
  | nil => exact ⟨[p], fun _ ↦ rfl⟩
  | cons q kept ih =>
    obtain ⟨kept', same⟩ := ih
    by_cases h : q.names = p.names
    · refine ⟨p :: kept, fun root ↦ ?_⟩
      have taken : (q.file root).path = (p.file root).path := congrArg root.descend h
      rw [List.map_cons, Summary.put, if_pos taken, List.map_cons]
    · refine ⟨q :: kept', fun root ↦ ?_⟩
      have apart : (q.file root).path ≠ (p.file root).path := fun he ↦
        h (root.descend_injective he)
      rw [List.map_cons, Summary.put, if_neg apart, same, List.map_cons]

/-- Which files are left after all were put does not depend on the directory. -/
theorem exists_putAll_files (placed : List Placement) :
    ∃ kept : List Placement, ∀ root,
      Summary.putAll [] (placed.map (·.file root)) = kept.map (·.file root) := by
  induction placed using List.reverseRecOn with
  | nil => exact ⟨[], fun _ ↦ rfl⟩
  | append_singleton placed p ih =>
    obtain ⟨kept, same⟩ := ih
    obtain ⟨kept', put⟩ := exists_put_files p kept
    refine ⟨kept', fun root ↦ ?_⟩
    rw [List.map_append, List.map_singleton, Summary.putAll_concat, same, put]

/-- What is told of the tools does not depend on the directory. -/
theorem exposes_files_iff (kept : List Placement) (root other : Path) {d : Server.Definition} :
    Exposes (kept.map (·.file root)) d ↔ Exposes (kept.map (·.file other)) d := by
  simp only [Exposes, List.mem_map, exists_exists_and_eq_and, forall_exists_index, and_imp,
    forall_apply_eq_imp_iff₂, Placement.file, Path.below_descend_lt_iff]

/-- Where a file is from the directory does not depend on the directory. -/
theorem exists_file_iff (kept : List Placement) (root other : Path) (names : List String)
    (a : Artifact) :
    (∃ f ∈ kept.map (·.file root), f.path = root.descend names ∧ f.artifact = a) ↔
      ∃ f ∈ kept.map (·.file other), f.path = other.descend names ∧ f.artifact = a := by
  simp only [List.mem_map, exists_exists_and_eq_and, Placement.file,
    root.descend_injective.eq_iff, other.descend_injective.eq_iff]

end Files

/-! ### Two runs -/

section Generate

variable {σ : Type} {g : Generator σ} {c : Collection} {w w' : World σ}

/-- Two runs into a directory that was empty leave the tools of the second and those that are left
over from the first, and the manifest of the second. -/
theorem Generator.regenerate_eq_ok {g₁ : Generator σ} {c₁ : Collection} {directory : Path}
    {w₁ w₂ : World σ} {r₁ r₂ : Report} (empty : w.files.EmptyBelow directory)
    (first : (g₁.generate c₁ (.directory directory)).perform w = (.ok r₁, w₁))
    (second : (g.generate c (.directory directory)).perform w₁ = (.ok r₂, w₂)) :
    ∃ (s₁ s₂ : Summary) (ws : List Written) (u₁ u₂ : World σ) (placed : List Placement),
      (do Job.makeDirectories directory
          g₁.walkCollection c₁ (directory.child toolsDirectory)).perform w = (.ok s₁, u₁) ∧
      (do Job.makeDirectories directory
          g.walkCollection c (directory.child toolsDirectory)).perform w₁ = (.ok s₂, u₂) ∧
      g.toWalker.Places [] w₁.service (visits c.items) placed u₂.service ∧
      s₂.written = Summary.putAll [] (placed.map (·.file (directory.child toolsDirectory))) ∧
      r₂.serverName = serverName (c.name.getD "") ∧
      r₂.tools = s₂.artifacts.map (·.name) ∧
      Walked (directory.child toolsDirectory) ws w₂.files ∧
      (∀ f, f ∈ ws ↔ f ∈ s₂.written ++ leftovers s₁ s₂) ∧
      Manifest.load w₂.files directory = .ok (.generated r₂.serverName g.mode r₂.tools) := by
  obtain ⟨s₁, u₁, walk₁, -, left, -⟩ := Generator.generate_eq_ok empty first
  obtain ⟨s₂, placed, u₀, u₂, walk₂, service, account, name, tools, walked, manifest⟩ :=
    Generator.generate_upon (fun _ more _ _ ↦ left.grows more) second
  exact ⟨s₁, s₂, _, u₁, u₂, placed, walk₁, walk₂, account.places_visits service,
    account.written_eq, name, tools, walked,
    fun f ↦ mem_putAll_iff_leftovers left.distinct account.written_eq, manifest⟩

/-- A collection is generated into the directory of a server if nothing is in the way of its
walk. -/
theorem Generator.generate_of_clear {directory : Path} {ws : List Written}
    {placed : List Placement} {service : σ}
    (there : Walked (directory.child toolsDirectory) ws w.files)
    (ready : Ready w.files directory)
    (places : g.toWalker.Places [] w.service (visits c.items) placed service)
    (clear : Clear w.files (directory.child toolsDirectory) (preorderAll [] c.items) placed) :
    ∃ s' u report w',
      (do Job.makeDirectories directory
          g.walkCollection c (directory.child toolsDirectory)).perform w = (.ok s', u) ∧
      (g.generate c (.directory directory)).perform w = (.ok report, w') := by
  have made := Job.makeDirectories_of_leads ready.healthy ready.leads ready.there
  have tools :=
    Job.makeDirectories_of_leads ready.healthy there.stored.leads there.stored.directory
  obtain ⟨s', u, steps, ready'⟩ := Walker.steps_of_places (s := {}) places clear
  have walked : (g.walkCollection c (directory.child toolsDirectory)).perform w = (.ok s', u) := by
    refine Job.bind_of_ok tools ?_
    rw [Walker.walk, plan_within]
    exact steps
  have walk : (do Job.makeDirectories directory
                  g.walkCollection c (directory.child toolsDirectory)).perform w = (.ok s', u) :=
    Job.bind_of_ok made walked
  obtain ⟨w', run⟩ := Generator.generate_of_walk walk (ready' directory ready)
  exact ⟨s', u, _, w', walk, run⟩

/-- What a walk does elsewhere is done in the directory of a server if the files that it writes
stand there already, and one in the directory of each folder. -/
theorem Generator.generate_over {directory : Path} {ws : List Written} {s : Summary}
    {v u : World σ} (there : Walked (directory.child toolsDirectory) ws w.files)
    (ready : Ready w.files directory)
    (walk : (do Job.makeDirectories directory
                g.walkCollection c (directory.child toolsDirectory)).perform v = (.ok s, u))
    (service : v.service = w.service)
    (folder : ∀ e ∈ preorderAll [] c.items, ∀ names, directory? e = some names →
      ∃ f ∈ ws, ∃ name rest,
        f.path = (directory.child toolsDirectory).descend (names ++ name :: rest))
    (tool : s.paths ⊆ ws.map (·.path)) :
    ∃ s' u' report w',
      (do Job.makeDirectories directory
          g.walkCollection c (directory.child toolsDirectory)).perform w = (.ok s', u') ∧
      s'.written = s.written ∧
      (g.generate c (.directory directory)).perform w = (.ok report, w') := by
  obtain ⟨placed, v₀, -, -, -, same, account⟩ := Generator.account_of_walk walk
  have places := account.places_visits (same.trans service)
  have clear := there.clear ready.healthy folder fun p hp ↦ tool (by
    rw [account.paths_eq, List.mem_eraseDups]
    exact List.mem_map_of_mem hp)
  obtain ⟨s', u', report, w', walk', run⟩ := Generator.generate_of_clear there ready places clear
  obtain ⟨placed', v', -, -, -, same', account'⟩ := Generator.account_of_walk walk'
  obtain ⟨rfl, -⟩ := places.eq_of_places (account'.places_visits same')
  exact ⟨s', u', report, w', walk', account'.written_eq.trans account.written_eq.symm, run⟩

end Generate

end Generation

/-! ### Serving what was generated anew -/

namespace CommandLine.Serve

open Generation

/-- A server whose files are there is loaded, with its tools in order. -/
theorem load_of_walked {files : Files} {dir name : String} {mode : Server.Mode}
    {tools : List String} {ws : List Written}
    (walked : Walked (Path.child ⟨dir, []⟩ toolsDirectory) ws files)
    (manifest : Manifest.load files ⟨dir, []⟩ = .ok (.generated name mode tools)) :
    ∃ loaded : List (List String × Artifact),
      load ⟨dir, []⟩ files = .ok (.generated name mode tools, loaded.map (·.2)) ∧
      InOrder (Path.child ⟨dir, []⟩ toolsDirectory) ws loaded := by
  have at_ := Manifest.locate_toolsPath_generated files dir name mode tools
  have passes := Manifest.passes_toolsPath_generated walked.stored.passes name mode tools
  obtain ⟨loaded, all, order⟩ := walked.load_sorted at_ passes
  refine ⟨loaded, ?_, order⟩
  simp only [load, manifest, all, Except.mapError, bind, Except.bind, pure, Except.pure]

/-- What a server lists whose tools are those of a later walk and those left over from an earlier
one, beside a server whose tools are those of the later walk alone. The names are those that the
manifest tells of. -/
structure Relisted (earlier later : Summary) (names : List String) (all own : Server.Listing) :
    Prop where
  /-- The server tells of the tools of both, of those of one name the one whose file comes last. -/
  tools : ∀ d, d ∈ all.tools ↔ Exposes (later.written ++ leftovers earlier later) d
  /-- The other server tells of the tools of the later walk. -/
  own_tools : ∀ d, d ∈ own.tools ↔ Exposes later.written d
  /-- The names are those of the manifest and those of the tools left over. -/
  mem_names : ∀ name, name ∈ all.tools.map (·.name) ↔
    name ∈ names ∨ ∃ f ∈ leftovers earlier later, f.artifact.name = name
  /-- For the other server they are those of the manifest. -/
  mem_own_names : ∀ name, name ∈ own.tools.map (·.name) ↔ name ∈ names
  /-- Whatever else is listed is told of a tool left over. -/
  other : ∀ d ∈ all.tools, d ∈ own.tools ∨ ∃ f ∈ leftovers earlier later, .ofArtifact f.artifact = d
  /-- A name that no tool left over has is listed as by the other server. -/
  kept : ∀ d, (∀ f ∈ leftovers earlier later, f.artifact.name ≠ d.name) →
    (d ∈ all.tools ↔ d ∈ own.tools)
  /-- Where no tools are left over, the listings are the same. -/
  same : leftovers earlier later = [] → all = own

/-- After two runs into a directory that was empty, the server is loaded with the manifest of the
second, as it is after the second run alone. It lists the tools of the second run together with
those that are left over from the first: of the tools of one name the one whose file comes last. The
second run alone lists the tools of its manifest; whatever else is listed after both is told of a
tool left over, a name that none of those has is listed as after the second run alone, and where
none are left over the listings are the same. -/
theorem load_regenerated {σ : Type} (g₁ g₂ : Generator σ) (c₁ c₂ : Collection) (dir dir' : String)
    {w w₁ w₂ v v' : World σ} {r₁ r₂ r : Report} (empty : w.files.EmptyBelow ⟨dir, []⟩)
    (first : (g₁.generate c₁ (.directory ⟨dir, []⟩)).perform w = (.ok r₁, w₁))
    (second : (g₂.generate c₂ (.directory ⟨dir, []⟩)).perform w₁ = (.ok r₂, w₂))
    (fresh : v.files.EmptyBelow ⟨dir', []⟩) (same : v.service = w₁.service)
    (alone : (g₂.generate c₂ (.directory ⟨dir', []⟩)).perform v = (.ok r, v')) :
    ∃ (m : Manifest) (artifacts own : List Artifact) (s₁ s₂ : Summary) (u₁ u₂ : World σ),
      load ⟨dir, []⟩ w₂.files = .ok (m, artifacts) ∧ load ⟨dir', []⟩ v'.files = .ok (m, own) ∧
      m.name = r₂.serverName ∧ m.mode = g₂.mode ∧ m.tools = r₂.tools ∧ r.tools = r₂.tools ∧
      r₂.tools = s₂.artifacts.map (·.name) ∧
      (do Job.makeDirectories ⟨dir, []⟩
          g₁.walkCollection c₁ (Path.child ⟨dir, []⟩ toolsDirectory)).perform w = (.ok s₁, u₁) ∧
      (do Job.makeDirectories ⟨dir, []⟩
          g₂.walkCollection c₂ (Path.child ⟨dir, []⟩ toolsDirectory)).perform w₁ = (.ok s₂, u₂) ∧
      ∀ environment : Table String,
        Relisted s₁ s₂ m.tools (server environment m artifacts).listing
          (server environment m own).listing := by
  obtain ⟨s₁, s₂, ws, u₁, u₂, placed, walk₁, walk₂, places, written, name, tools, walked, both,
    manifest⟩ := Generator.regenerate_eq_ok empty first second
  obtain ⟨s', _, _, _, -, service, account, name', tools', walked', manifest'⟩ :=
    Generator.generate_upon (fun _ ↦ Walked.start (fresh.child toolsDirectory)) alone
  -- The run alone leads to the same tools, and the directory does not decide which of them stay.
  obtain ⟨rfl, -⟩ := places.eq_of_places (account.places_visits (service.trans same))
  obtain ⟨kept, everywhere⟩ := exists_putAll_files placed
  have written' := account.written_eq
  rw [everywhere] at written written' walked'
  have artifacts : s'.artifacts = s₂.artifacts := by
    rw [← s'.map_artifact_written, ← s₂.map_artifact_written, written, written', List.map_map,
      List.map_map]
    rfl
  rw [name', ← name, tools', artifacts, ← tools] at manifest'
  obtain ⟨loaded, load, order⟩ := load_of_walked walked manifest
  obtain ⟨own, load', order'⟩ := load_of_walked walked' manifest'
  generalize made : Manifest.generated r₂.serverName g₂.mode r₂.tools = m at load load'
  have manifest_tools : m.tools = r₂.tools := made ▸ rfl
  refine ⟨m, _, _, s₁, s₂, u₁, u₂, load, load', made ▸ rfl, made ▸ rfl, manifest_tools, ?_, tools,
    walk₁, walk₂, fun environment ↦ ?_⟩
  · rw [tools', artifacts, ← tools]
  have served (d) : d ∈ (server environment m (loaded.map (·.2))).listing.tools ↔
      Exposes (s₂.written ++ leftovers s₁ s₂) d :=
    (order.mem_listing _ environment).trans (Exposes.congr both)
  have served' (d) : d ∈ (server environment m (own.map (·.2))).listing.tools ↔
      Exposes s₂.written d := by
    rw [written]
    exact (order'.mem_listing _ environment).trans (exposes_files_iff kept _ _)
  refine ⟨served, served', fun n ↦ ?_, fun n ↦ ?_, fun d hd ↦ ?_, fun d other ↦ ?_, fun none ↦ ?_⟩
  · refine (order.mem_names_listing _ environment).trans ?_
    rw [manifest_tools, tools, Summary.mem_names_artifacts]
    simp only [both, List.mem_append, or_and_right, exists_or]
  · refine (order'.mem_names_listing _ environment).trans ?_
    rw [manifest_tools, tools, Summary.mem_names_artifacts, written]
    simp only [List.mem_map, exists_exists_and_eq_and]
    rfl
  · exact ((served d).1 hd).of_append.imp_left (served' d).2
  · exact (served d).trans ((exposes_append_iff other).trans (served' d).symm)
  · have equal : loaded = own := order.eq_of_mem_iff order' fun names a ↦ by
      simp only [both, none, List.append_nil, written]
      exact exists_file_iff kept _ _ names a
    rw [equal]

/-! ### A tool left over -/

/-- The files of a walk, with the names of their tools. -/
def namedFiles (s : Summary) : List (Path × String) :=
  s.written.map fun f ↦ (f.path, f.artifact.name)

theorem map_path_namedFiles (s : Summary) :
    (namedFiles s).map (·.1) = s.written.map (·.path) := by
  rw [namedFiles, List.map_map]
  rfl

theorem map_name_namedFiles (s : Summary) :
    (namedFiles s).map (·.2) = s.artifacts.map (·.name) := by
  rw [namedFiles, ← s.map_artifact_written, List.map_map, List.map_map]
  rfl

theorem exists_leftover_iff {earlier later : Summary} {name : String} :
    (∃ f ∈ leftovers earlier later, f.artifact.name = name) ↔
      ∃ e ∈ namedFiles earlier, e.2 = name ∧ e.1 ∉ (namedFiles later).map (·.1) := by
  rw [map_path_namedFiles]
  constructor
  · rintro ⟨f, hf, rfl⟩
    obtain ⟨hf, unwritten⟩ := mem_leftovers.1 hf
    exact ⟨(f.path, f.artifact.name), List.mem_map_of_mem hf, rfl, unwritten⟩
  · rintro ⟨_, he, rfl, unwritten⟩
    obtain ⟨f, hf, rfl⟩ := List.mem_map.1 he
    exact ⟨f, mem_leftovers.2 ⟨hf, unwritten⟩, rfl⟩

/-- The pet in the folder. -/
def onePet : Collection where
  items := [.folder (some "pets") [.request { name := some "pet", payload := some {} }]]

/-- The files of the pets. -/
def petFiles : List (Path × String) :=
  [(⟨"out", ["tools", "pets", "pet.json"]⟩, "pet"), (⟨"out", ["tools", "pet2.json"]⟩, "pet2")]

/-- Both pets are generated, and then the one in the folder, into the same directory or into one of
its own. -/
theorem exists_runs_onePet :
    ∃ (s₁ s₂ : Summary) (u₁ u₂ w₁ w₂ v : World Unit) (r₁ r₂ r : Report),
      (do Job.makeDirectories ⟨"out", []⟩
          numbering.walkCollection twoPets (Path.child ⟨"out", []⟩ toolsDirectory)).perform
        ⟨{}, ()⟩ = (.ok s₁, u₁) ∧ namedFiles s₁ = petFiles ∧
      (do Job.makeDirectories ⟨"out", []⟩
          numbering.walkCollection onePet (Path.child ⟨"out", []⟩ toolsDirectory)).perform w₁ =
        (.ok s₂, u₂) ∧ namedFiles s₂ = petFiles.take 1 ∧
      (numbering.generate twoPets (.directory ⟨"out", []⟩)).perform ⟨{}, ()⟩ = (.ok r₁, w₁) ∧
      (numbering.generate onePet (.directory ⟨"out", []⟩)).perform w₁ = (.ok r₂, w₂) ∧
      (numbering.generate onePet (.directory ⟨"out", []⟩)).perform ⟨{}, ()⟩ = (.ok r, v) ∧
      r.tools = ["pet"] := by
  let walk (c : Collection) : Job Unit Summary := do
    Job.makeDirectories ⟨"out", []⟩
    numbering.walkCollection c (Path.child ⟨"out", []⟩ toolsDirectory)
  have two : ((walk twoPets).perform ⟨{}, ()⟩).1.toOption.map namedFiles = some petFiles := by
    decide +kernel
  have ready : Ready ((walk twoPets).perform ⟨{}, ()⟩).2.files ⟨"out", []⟩ :=
    ⟨by decide +kernel, by decide +kernel, by decide +kernel, by decide +kernel⟩
  have one : ((walk onePet).perform ⟨{}, ()⟩).1.toOption.map namedFiles =
      some (petFiles.take 1) := by decide +kernel
  have ready' : Ready ((walk onePet).perform ⟨{}, ()⟩).2.files ⟨"out", []⟩ :=
    ⟨by decide +kernel, by decide +kernel, by decide +kernel, by decide +kernel⟩
  obtain ⟨s₁, u₁, walk₁, two⟩ := Job.exists_of_toOption two
  obtain ⟨s, u, walk', one⟩ := Job.exists_of_toOption one
  rw [walk₁] at ready
  rw [walk'] at ready'
  obtain ⟨w₁, first, again⟩ := Generator.ready_of_walk walk₁ ready
  obtain ⟨v, alone⟩ := Generator.generate_of_walk walk' ready'
  obtain ⟨_, _, walk₁', -, left, -⟩ := Generator.generate_eq_ok (fun _ _ ↦ rfl) first
  cases walk₁.symm.trans walk₁'
  have folder : ∀ e ∈ preorderAll [] onePet.items, ∀ names, directory? e = some names →
      ∃ f ∈ s₁.written, ∃ name rest,
        f.path = (Path.child ⟨"out", []⟩ toolsDirectory).descend (names ++ name :: rest) := by
    intro e he names dir
    have pets : folderName (some "pets") = "pets" := by decide +kernel
    obtain rfl : names = ["pets"] := by
      simp only [onePet, preorderAll, preorder, List.append_nil, List.mem_cons,
        List.not_mem_nil, or_false] at he
      rcases he with rfl | rfl
      · simpa [directory?, pets] using dir.symm
      · cases dir
    have pet : petFiles[0].1 ∈ s₁.written.map (·.path) := by
      rw [← map_path_namedFiles, two]
      exact List.mem_cons_self
    obtain ⟨f, hf, path⟩ := List.mem_map.1 pet
    exact ⟨f, hf, "pet.json", [], path⟩
  have tool : s.paths ⊆ s₁.written.map (·.path) := by
    rw [← s.map_path_written, ← map_path_namedFiles, ← map_path_namedFiles, two, one]
    decide
  obtain ⟨s₂, u₂, r₂, w₂, walk₂, written, second⟩ :=
    Generator.generate_over left again walk' rfl folder tool
  refine ⟨s₁, s₂, u₁, u₂, w₁, w₂, v, _, r₂, _, walk₁, two, walk₂, ?_, first, second, alone, ?_⟩
  · rw [namedFiles, written]
    exact one
  · rw [← map_name_namedFiles, one]
    rfl

/-- The second pet is still served, though the manifest does not tell of it any more and the later
collection alone would not have it served. -/
theorem load_regenerated_fails :
    ∃ (r₁ r₂ r : Report) (w₁ w₂ v : World Unit) (m m' : Manifest) (artifacts own : List Artifact),
      (numbering.generate twoPets (.directory ⟨"out", []⟩)).perform ⟨{}, ()⟩ = (.ok r₁, w₁) ∧
      (numbering.generate onePet (.directory ⟨"out", []⟩)).perform w₁ = (.ok r₂, w₂) ∧
      (numbering.generate onePet (.directory ⟨"out", []⟩)).perform ⟨{}, ()⟩ = (.ok r, v) ∧
      load ⟨"out", []⟩ w₂.files = .ok (m, artifacts) ∧ load ⟨"out", []⟩ v.files = .ok (m', own) ∧
      "pet2" ∈ (server [] m artifacts).listing.tools.map (·.name) ∧ "pet2" ∉ m.tools ∧
      "pet2" ∉ (server [] m' own).listing.tools.map (·.name) := by
  obtain ⟨s₁, s₂, _, _, w₁, w₂, v, r₁, r₂, r, walk₁, two, walk₂, one, first, second, alone,
    tools⟩ := exists_runs_onePet
  have empty : Files.EmptyBelow {} ⟨"out", []⟩ := fun _ _ ↦ rfl
  obtain ⟨_, _, s, _, _, _, walk₁', walk₂', -, -, -, tools₂, walked, both, manifest⟩ :=
    Generator.regenerate_eq_ok (w := ⟨{}, ()⟩) empty first second
  cases walk₁.symm.trans walk₁'
  cases walk₂.symm.trans walk₂'
  obtain ⟨s', _, -, tools', walked', manifest', -⟩ :=
    Generator.generate_eq_ok (w := ⟨{}, ()⟩) empty alone
  obtain ⟨loaded, load, order⟩ := load_of_walked walked manifest
  obtain ⟨own, load', order'⟩ := load_of_walked walked' manifest'
  refine ⟨r₁, r₂, r, w₁, w₂, v, _, _, _, _, first, second, alone, load, load', ?_, ?_, ?_⟩
  · have left : ∃ f ∈ leftovers s₁ s₂, f.artifact.name = "pet2" := by
      rw [exists_leftover_iff, two, one]
      decide
    obtain ⟨f, hf, named⟩ := left
    exact (order.mem_names_listing _ _).2 ⟨f, (both f).2 (List.mem_append_right _ hf), named⟩
  · have only : (Manifest.generated r₂.serverName numbering.mode r₂.tools).tools = ["pet"] := by
      rw [Manifest.generated, tools₂, ← map_name_namedFiles, one]
      rfl
    rw [only]
    decide
  · refine mt (order'.mem_names_listing _ _).1 ?_
    rw [← Summary.mem_names_artifacts, ← tools', tools]
    decide

/-- After both runs the second pet is served as well, and the first as after the second run
alone. -/
theorem load_regenerated_onePet :
    ∃ (r₁ r₂ r : Report) (w₁ w₂ v : World Unit) (m : Manifest) (artifacts own : List Artifact),
      (numbering.generate twoPets (.directory ⟨"out", []⟩)).perform ⟨{}, ()⟩ = (.ok r₁, w₁) ∧
      (numbering.generate onePet (.directory ⟨"out", []⟩)).perform w₁ = (.ok r₂, w₂) ∧
      (numbering.generate onePet (.directory ⟨"out", []⟩)).perform ⟨{}, ()⟩ = (.ok r, v) ∧
      load ⟨"out", []⟩ w₂.files = .ok (m, artifacts) ∧ load ⟨"out", []⟩ v.files = .ok (m, own) ∧
      m.tools = ["pet"] ∧
      (∀ name, name ∈ (server [] m artifacts).listing.tools.map (·.name) ↔
        name = "pet" ∨ name = "pet2") ∧
      (∀ name, name ∈ (server [] m own).listing.tools.map (·.name) ↔ name = "pet") ∧
      ∀ d, d.name = "pet" → (d ∈ (server [] m artifacts).listing.tools ↔
        d ∈ (server [] m own).listing.tools) := by
  obtain ⟨s₁, s₂, _, _, w₁, w₂, v, r₁, r₂, r, walk₁, two, walk₂, one, first, second, alone,
    tools⟩ := exists_runs_onePet
  have empty : Files.EmptyBelow {} ⟨"out", []⟩ := fun _ _ ↦ rfl
  obtain ⟨m, artifacts, own, _, _, _, _, load, load', -, -, told, same, -, walk₁', walk₂',
    serves⟩ := load_regenerated numbering numbering twoPets onePet "out" "out" (w := ⟨{}, ()⟩)
      (v := ⟨{}, ()⟩) empty first second empty rfl alone
  cases walk₁.symm.trans walk₁'
  cases walk₂.symm.trans walk₂'
  have listed := serves []
  have only : m.tools = ["pet"] := by rw [told, ← same, tools]
  have left (name : String) : (∃ f ∈ leftovers s₁ s₂, f.artifact.name = name) ↔ name = "pet2" := by
    rw [exists_leftover_iff, two, one]
    simp [petFiles, eq_comm]
  refine ⟨r₁, r₂, r, w₁, w₂, v, m, artifacts, own, first, second, alone, load, load', only,
    fun name ↦ ?_, fun name ↦ ?_, fun d pet ↦ listed.kept d fun f hf named ↦ ?_⟩
  · rw [listed.mem_names, only, left, List.mem_singleton]
  · rw [listed.mem_own_names, only, List.mem_singleton]
  · have second := (left d.name).1 ⟨f, hf, named⟩
    rw [pet] at second
    revert second
    decide

end CommandLine.Serve

end Toolsmith
