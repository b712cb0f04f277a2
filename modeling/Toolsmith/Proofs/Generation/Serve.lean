import Toolsmith.CommandLine.Run
import Toolsmith.Proofs.Generation.Extras
import Toolsmith.Proofs.Generation.Load

/-!
# Generated servers are served

A server that was generated into an empty directory is found there again: its manifest, its tools,
and nothing else. The files besides the tools are written after them and next to their directory,
so they leave the tools alone.

## Main statements

* `Generation.Generator.generate_upon`: what a run that succeeded left behind, upon what was there.
* `Generation.Generator.generate_eq_ok`: what it left behind in an empty directory.
* `Generation.Generator.ready_of_walk`: a run whose walk succeeds succeeds.
* `CommandLine.Serve.load_generated`: what is served is what was generated.
-/

namespace Toolsmith

namespace Generation

/-! ### Generating -/

/-- The manifest of a generated server leads from the server's directory to that of its tools. -/
theorem Manifest.locate_toolsPath_generated (files : Files) (dir name : String)
    (mode : Server.Mode) (tools : List String) :
    files.locate ((Manifest.generated name mode tools).toolsPath ⟨dir, []⟩) =
      files.locate (Path.child ⟨dir, []⟩ toolsDirectory) := by
  have isName : Path.IsName toolsDirectory := by decide
  rw [Files.locate_child]
  exact Files.locate_join files isName dir

/-- The path from the manifest passes where the server's directory does. -/
theorem Manifest.passes_toolsPath_generated {files : Files} {dir : String}
    (passes : files.Passes (Path.child ⟨dir, []⟩ toolsDirectory)) (name : String)
    (mode : Server.Mode) (tools : List String) :
    files.Passes ((Manifest.generated name mode tools).toolsPath ⟨dir, []⟩) := by
  have isName : Path.IsName toolsDirectory := by decide
  have same : files.detours ((Manifest.generated name mode tools).toolsPath ⟨dir, []⟩) =
      files.detours (Path.child ⟨dir, []⟩ toolsDirectory) := Files.detours_join files isName dir
  rwa [Files.Passes, same]

section Generate

variable {σ : Type} {g : Generator σ} {c : Collection} {w w' : World σ}

/-- What a walk did that made the directory of a server first. -/
theorem Generator.account_of_walk {directory : Path} {s : Summary}
    (walk : (do Job.makeDirectories directory
                g.walkCollection c (directory.child toolsDirectory)).perform w = (.ok s, w')) :
    ∃ placed w₀, w.files.Grows w₀.files ∧
      w₀.files.Leads (directory.child toolsDirectory) ∧
      w₀.files.get? (w.files.locate (directory.child toolsDirectory)) = some .directory ∧
      w₀.service = w.service ∧
      g.toWalker.Account (directory.child toolsDirectory) (preorderAll [] c.items) placed {} w₀
        s w' := by
  obtain ⟨_, w₁, made, walked⟩ := Job.bind_eq_ok walk
  obtain ⟨⟨grows, -, -⟩, kept⟩ := Job.makeDirectories_eq_ok made
  obtain ⟨placed, w₀, more, leads, there, service, account⟩ :=
    Walker.account_of_walkCollection walked
  rw [grows.locate_eq] at there
  exact ⟨placed, w₀, grows.trans more, leads, there, service.trans kept, account⟩

/-- A run that succeeded made the directories, walked the collection from that of the tools, and
wrote the files besides the tools. Its tools were put among those that were there, if any, once the
directories were made; the manifest tells of its own. -/
theorem Generator.generate_upon {directory : Path} {ws : List Written} {report : Report}
    (start : ∀ files, w.files.Grows files → files.Leads (directory.child toolsDirectory) →
      files.get? (w.files.locate (directory.child toolsDirectory)) = some .directory →
      Walked (directory.child toolsDirectory) ws files)
    (run : (g.generate c (.directory directory)).perform w = (.ok report, w')) :
    ∃ s placed w₀ w₁,
      (do Job.makeDirectories directory
          g.walkCollection c (directory.child toolsDirectory)).perform w = (.ok s, w₁) ∧
      w₀.service = w.service ∧
      g.toWalker.Account (directory.child toolsDirectory) (preorderAll [] c.items) placed {} w₀
        s w₁ ∧
      report.serverName = serverName (c.name.getD "") ∧
      report.tools = s.artifacts.map (·.name) ∧
      Walked (directory.child toolsDirectory)
        (Summary.putAll ws (placed.map (·.file (directory.child toolsDirectory)))) w'.files ∧
      Manifest.load w'.files directory =
        .ok (.generated report.serverName g.mode report.tools) := by
  obtain ⟨s, w₂, written, last⟩ := Job.bind_eq_ok run
  obtain ⟨rfl, rfl⟩ := Job.pure_eq_ok last
  obtain ⟨_, w₃, made, server⟩ := Job.bind_eq_ok written
  obtain ⟨w₁, ps, walked, extras⟩ := Generator.writeServer_eq_ok server
  have walk : (do Job.makeDirectories directory
                  g.walkCollection c (directory.child toolsDirectory)).perform w = (.ok s, w₁) :=
    Job.bind_of_ok made walked
  obtain ⟨placed, w₀, grows, leads, there, service, account⟩ := Generator.account_of_walk walk
  have left := (start w₀.files grows leads there).lays account.places.sound account.lays
  obtain ⟨stored, manifest⟩ := left.stored.writeExtras extras
  exact ⟨s, placed, w₀, w₁, walk, service, account, rfl, rfl,
    ⟨stored, left.distinct, left.sound, left.named⟩, manifest⟩

/-- A run into an empty directory that succeeded walked the collection, left the files of its tools
and the manifest, and reports the tools. -/
theorem Generator.generate_eq_ok {directory : Path} (empty : w.files.EmptyBelow directory)
    {report : Report} (run : (g.generate c (.directory directory)).perform w = (.ok report, w')) :
    ∃ s w₁,
      (do Job.makeDirectories directory
          g.walkCollection c (directory.child toolsDirectory)).perform w = (.ok s, w₁) ∧
      report.tools = s.artifacts.map (·.name) ∧
      Walked (directory.child toolsDirectory) s.written w'.files ∧
      Manifest.load w'.files directory = .ok (.generated report.serverName g.mode report.tools) ∧
      (g.collision = .suffix → report.tools.Nodup ∧ report.tools.length = c.requestCount) := by
  have start := fun files ↦ @Walked.start _ _ files (empty.child toolsDirectory)
  obtain ⟨s, placed, w₀, w₁, walk, -, account, -, tools, walked, manifest⟩ :=
    Generator.generate_upon start run
  rw [← account.written_eq] at walked
  refine ⟨s, w₁, walk, tools, walked, manifest, fun suffix ↦ ?_⟩
  obtain ⟨-, distinct, count⟩ := account.numbered suffix
  refine ⟨tools ▸ distinct, ?_⟩
  rw [tools, List.length_map, s.paired, ← s.counted]
  exact count

/-- A run whose walk succeeded succeeds, unless a directory is in the way of the other files, and
none is in their way afterwards. -/
theorem Generator.ready_of_walk {directory : Path} {s : Summary} {w₁ : World σ}
    (walk : (do Job.makeDirectories directory
                g.walkCollection c (directory.child toolsDirectory)).perform w = (.ok s, w₁))
    (ready : Ready w₁.files directory) :
    ∃ w', (g.generate c (.directory directory)).perform w =
      (.ok ⟨serverName (c.name.getD ""), s.artifacts.map (·.name), s.requestsSkipped, directory⟩,
        w') ∧ Ready w'.files directory := by
  obtain ⟨_, w₀, made, walked⟩ := Job.bind_eq_ok walk
  obtain ⟨ps, w', extras, ready'⟩ := ready.writeExtras
    ⟨serverName (c.name.getD ""), g.mode, environmentNames s.artifacts⟩ (s.artifacts.map (·.name))
  have server : (g.writeServer c (serverName (c.name.getD "")) directory).perform w₀ =
      (.ok s, w') := Job.bind_of_ok walked (Job.bind_of_ok extras rfl)
  exact ⟨w', Job.bind_of_ok (Job.bind_of_ok made server) rfl, ready'⟩

theorem Generator.generate_of_walk {directory : Path} {s : Summary} {w₁ : World σ}
    (walk : (do Job.makeDirectories directory
                g.walkCollection c (directory.child toolsDirectory)).perform w = (.ok s, w₁))
    (ready : Ready w₁.files directory) :
    ∃ w', (g.generate c (.directory directory)).perform w =
      (.ok ⟨serverName (c.name.getD ""), s.artifacts.map (·.name), s.requestsSkipped, directory⟩,
        w') := by
  obtain ⟨w', run, -⟩ := Generator.ready_of_walk walk ready
  exact ⟨w', run⟩

end Generate

end Generation

/-! ### Serving -/

namespace CommandLine.Serve

open Generation

/-- A server that was generated into an empty directory is loaded from there: under its name, in
its mode, with the tools of the report. Whatever the environment, the server lists the tools of the
report by name, and each is that of a tool of the walk. Where equal identifiers are numbered, there
are as many as there are requests with a payload, and all are listed. -/
theorem load_generated {σ : Type} (g : Generator σ) (c : Collection) (dir : String)
    {w w' : World σ} {report : Report} (empty : w.files.EmptyBelow ⟨dir, []⟩)
    (run : (g.generate c (.directory ⟨dir, []⟩)).perform w = (.ok report, w')) :
    ∃ (m : Manifest) (artifacts : List Artifact) (s : Summary) (w₁ : World σ),
      Manifest.load w'.files ⟨dir, []⟩ = .ok m ∧
      m.name = report.serverName ∧ m.mode = g.mode ∧ m.tools = report.tools ∧
      load ⟨dir, []⟩ w'.files = .ok (m, artifacts) ∧
      (do Job.makeDirectories ⟨dir, []⟩
          g.walkCollection c (Path.child ⟨dir, []⟩ toolsDirectory)).perform w = (.ok s, w₁) ∧
      ∀ environment : Table String,
        (∀ name, name ∈ (server environment m artifacts).listing.tools.map (·.name) ↔
          name ∈ report.tools) ∧
        (∀ d ∈ (server environment m artifacts).listing.tools,
          ∃ a ∈ s.artifacts, d = .ofArtifact a) ∧
        (g.collision = .suffix → report.tools.Nodup ∧ report.tools.length = c.requestCount ∧
          (server environment m artifacts).listing.tools.length = c.requestCount) := by
  obtain ⟨s, w₁, walk, tools, walked, manifest, numbered⟩ := Generator.generate_eq_ok empty run
  have at_ := Manifest.locate_toolsPath_generated w'.files dir report.serverName g.mode report.tools
  have passes := Manifest.passes_toolsPath_generated walked.stored.passes report.serverName g.mode
    report.tools
  obtain ⟨artifacts, loaded, mem⟩ := walked.load_eq_ok at_ passes
  rw [s.map_artifact_written] at mem
  refine ⟨_, artifacts, s, w₁, manifest, rfl, rfl, rfl, ?_, walk, fun environment ↦ ?_⟩
  · simp only [load, manifest, loaded, Except.mapError, bind, Except.bind, pure, Except.pure]
  · have names : (server environment (.generated report.serverName g.mode report.tools)
        artifacts).listing.tools.map (·.name) = _ := Server.names_listing_register _ _ _
    have same (n : String) : n ∈ (server environment
        (.generated report.serverName g.mode report.tools) artifacts).listing.tools.map (·.name) ↔
        n ∈ report.tools := by
      rw [names, Server.mem_names_register, tools, List.mem_map]
      simp only [mem]
    refine ⟨same, fun d hd ↦ ?_, fun suffix ↦ ?_⟩
    · obtain ⟨a, ha, rfl⟩ := Server.mem_listing_register _ _ _ hd
      exact ⟨a, (mem a).1 ha, rfl⟩
    · obtain ⟨distinct, count⟩ := numbered suffix
      refine ⟨distinct, count, ?_⟩
      -- The listed names and those of the report are distinct and the same, so as many.
      have listed := names ▸ Server.nodup_names_register _ environment artifacts
      have perm := (List.perm_ext_iff_of_nodup listed distinct).2 same
      rw [← count, ← perm.length_eq, List.length_map]

/-- A generator that numbers equal identifiers. -/
def numbering : Generator Unit where
  collision := .suffix

/-- Two requests of one name, one of them in a folder, and one that makes no tool. -/
def twoPets : Collection where
  items :=
    [.folder (some "pets") [.request { name := some "pet", payload := some {} }, .request {}],
      .request { name := some "pet", payload := some {} }]

/-- Both requests get their tools in an empty directory. -/
theorem exists_generate_twoPets :
    ∃ (report : Report) (w' : World Unit),
      (numbering.generate twoPets (.directory ⟨"out", []⟩)).perform ⟨{}, ()⟩ = (.ok report, w') ∧
      report.tools = ["pet", "pet2"] := by
  let walk : Job Unit Summary := do
    Job.makeDirectories ⟨"out", []⟩
    numbering.walkCollection twoPets (Path.child ⟨"out", []⟩ toolsDirectory)
  have names : (walk.perform ⟨{}, ()⟩).1.toOption.map (·.artifacts.map (·.name)) =
      some ["pet", "pet2"] := by decide +kernel
  have ready : Ready (walk.perform ⟨{}, ()⟩).2.files ⟨"out", []⟩ :=
    ⟨by decide +kernel, by decide +kernel, by decide +kernel, by decide +kernel⟩
  obtain ⟨s, w₁, walked, tools⟩ := Job.exists_of_toOption names
  rw [walked] at ready
  obtain ⟨w', run⟩ := Generator.generate_of_walk walked ready
  exact ⟨_, w', run, tools⟩

/-- Both requests are served. -/
theorem load_generated_twoPets :
    ∃ (report : Report) (w' : World Unit) (m : Manifest) (artifacts : List Artifact),
      (numbering.generate twoPets (.directory ⟨"out", []⟩)).perform ⟨{}, ()⟩ = (.ok report, w') ∧
      report.tools = ["pet", "pet2"] ∧ load ⟨"out", []⟩ w'.files = .ok (m, artifacts) ∧
      (server [] m artifacts).listing.tools.length = 2 := by
  obtain ⟨report, w', run, tools⟩ := exists_generate_twoPets
  have empty : Files.EmptyBelow {} ⟨"out", []⟩ := fun _ _ ↦ rfl
  obtain ⟨m, artifacts, _, _, -, -, -, -, loaded, -, serves⟩ :=
    load_generated numbering twoPets "out" empty run
  obtain ⟨-, -, numbered⟩ := serves []
  exact ⟨report, w', m, artifacts, run, tools, loaded, (numbered rfl).2.2⟩

end CommandLine.Serve

end Toolsmith
