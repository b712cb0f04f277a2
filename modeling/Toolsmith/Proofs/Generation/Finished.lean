import Toolsmith.Proofs.Files.Again
import Toolsmith.Proofs.Generation.Packed

/-!
# Failed generations do not look finished

A server in a directory is known by its manifest, which is written last. So where a generation
succeeds, all tools that its manifest names were written before, and stay as they are. Where it
fails, no manifest is new, with two exceptions: the writing of the manifest itself may be what
fails, and leave the beginning of it; and the path of the server may lead through a directory of
that name and out of it again, which is made on the way. A server in an archive is written elsewhere
first. A generation that fails by then leaves all files as they were, and packing is about the
archive only.

## Main definitions

* `Generation.Source`: where collections come from.
* `Generation.Complete`: the tools of a generation are written.
* `Generation.Finishes`: what a generation leaves.

## Main statements

* `Generator.exists_complete_of_ok`: a generation that succeeds has written its tools and the
  manifest.
* `Generator.manifest_of_error`: what a generation that fails leaves at the place of the manifest.
* `Generator.files_of_archive`: what a generation into an archive leaves.
* `Generator.generateFrom_finishes`: when a generation looks finished.
* `Generator.exists_interrupted`: any generation may leave an empty manifest.
-/

namespace Toolsmith.Generation

open Files (Content Operation)

variable {σ : Type} {g : Generator σ} {c : Collection} {directory archive : Path} {w w' : World σ}
  {placed : List Placement} {service' : σ} {r : Report} {e : Error}

/-! ### Tools that stay -/

/-- A file stays as long as no operation is about its place. -/
theorem Held.performAll {fs fs' : Files} {f : Written} {ops : List Operation} (h : Held fs f)
    (done : fs.performAll ops = (.ok (), fs'))
    (idle : ∀ op ∈ ops, fs.locate op.path ≠ fs.locate f.path) : Held fs' f := by
  obtain ⟨leads, x, there⟩ := h
  have keeps := Files.keeps_performAll done
  have kept := Files.content_performAll done
    (fun op hop writes ↦ idle op hop (Operation.locate_of_writesAt writes)) there
  rw [← keeps.locate_eq] at kept
  exact ⟨keeps.leads leads, kept⟩

/-- The tools of a generation are complete: its collection was walked, the tools are those of the
walk, and the file of each is there with all that it holds. -/
def Complete (g : Generator σ) (c : Collection) (directory : Path) (w : World σ)
    (tools : List String) (files : Files) : Prop :=
  ∃ s w₁,
    (do Job.makeDirectories directory
        g.walkCollection c (directory.child toolsDirectory)).perform w = (.ok s, w₁) ∧
    tools = s.artifacts.map (·.name) ∧
    ∀ f ∈ s.written,
      (∃ names, f.path =
        (directory.child toolsDirectory).descend (names ++ [f.artifact.fileName])) ∧
      files.read f.path = .ok f.artifact.render

/-- The tools that a walk wrote are complete after the files besides them, whatever is put where the
manifest stands. -/
theorem complete_of_puts {fs files : Files} {ops : List Operation} {tools : List String}
    {content : Content}
    (places : g.toWalker.Places [] w.service (visits c.items) placed service')
    (templated : ∀ op ∈ ops, Templated directory Template.all op)
    (done : w.files.performAll (walkOperations directory (preorderAll [] c.items) placed ++ ops) =
      (.ok (), fs))
    (put : fs.Puts files (directory.child Manifest.fileName) content)
    (same : tools = (tally (directory.child toolsDirectory) {} (preorderAll [] c.items)
      placed).artifacts.map (·.name)) :
    Complete g c directory w tools files := by
  have others : ∀ t ∈ Template.all, t.file ≠ toolsDirectory := by decide
  obtain ⟨fs₁, walked, extras⟩ := Files.performAll_append_eq_ok done
  have walk := (g.does_walk directory places).done walked
  obtain ⟨placed', w₀, -, -, -, -, account⟩ := Generator.account_of_walk walk
  refine ⟨_, _, walk, same, fun f hf ↦ ?_⟩
  have none : (([] : List Written).map (·.path)).Nodup := List.nodup_nil
  rw [account.written_eq] at hf
  have last := ((Summary.mem_putAll none).1 hf).resolve_right fun old ↦ List.not_mem_nil old.1
  obtain ⟨_, hp, rfl⟩ := last.exists_begins
  obtain ⟨p, -, rfl⟩ := List.mem_map.1 hp
  -- The file was there after the walk, and it stays.
  have held := account.lays.held Walker.below_of_mem_files last
  have kept := held.performAll extras fun op hop ↦ by
    obtain ⟨-, t, ht, path⟩ := templated op hop
    rw [path]
    exact locate_child_ne (others t ht) fs₁ p.names
  obtain ⟨leads, x, there⟩ := kept.elsewhere put (locate_child_ne (by decide) fs p.names)
  exact ⟨⟨p.folders, rfl⟩, Files.read_of_get? leads there⟩

/-! ### Generations into a directory -/

namespace Generator

/-- A generation that succeeds has walked the collection. The tools that it reports are complete,
and the manifest tells of them. -/
theorem exists_complete_of_ok
    (run : (g.generate c (.directory directory)).perform w = (.ok r, w')) :
    Complete g c directory w r.tools w'.files ∧
      w'.files.read (directory.child Manifest.fileName) =
        .ok (Manifest.generated r.serverName g.mode r.tools).render ∧
      Manifest.load w'.files directory = .ok (.generated r.serverName g.mode r.tools) := by
  obtain ⟨placed, service', ops, places, templated, reported, -, done⟩ := exists_does_of_ok run
  obtain ⟨fs₁, before, written⟩ := Files.performAll_concat_eq_ok done
  have put := Operation.puts_of_apply written
  obtain ⟨leads, x, there⟩ := put.placed
  exact ⟨complete_of_puts places templated before put (by rw [reported]; rfl),
    Files.read_of_get? leads there, Manifest.load_eq_ok leads there⟩

/-- What a generation that fails leaves at the place of the manifest, where nothing was before. -/
theorem manifest_of_error
    (run : (g.generate c (.directory directory)).perform w = (.error e, w'))
    (fresh : w.files.get? (w.files.locate (directory.child Manifest.fileName)) = none) :
    w'.files.get? (w.files.locate (directory.child Manifest.fileName)) = none ∨
    (w'.files.get? (w.files.locate (directory.child Manifest.fileName)) = some .directory ∧
      ∃ way ∈ w.files.detours directory,
        w.files.locate (directory.child Manifest.fileName) <+: way) ∨
    ∃ reason tools n x, e = .write (directory.child Manifest.fileName) reason ∧
      w'.files.get? (w.files.locate (directory.child Manifest.fileName)) =
        some (.file ((Content.text (Manifest.generated (serverName (c.name.getD "")) g.mode
          tools).render).take n) x) ∧
      Complete g c directory w tools w'.files := by
  -- What the operations before the manifest leave at its place.
  have spared {ops : List Operation} (spares : ∀ op ∈ ops, Spares directory op) {fs : Files}
      (left : fs = (w.files.performAll ops).2) :
      fs.get? (w.files.locate (directory.child Manifest.fileName)) = none ∨
      (fs.get? (w.files.locate (directory.child Manifest.fileName)) = some .directory ∧
        ∃ way ∈ w.files.detours directory,
          w.files.locate (directory.child Manifest.fileName) <+: way) := by
    rw [left]
    rcases get?_performAll_of_spares w.files spares with same | ⟨way, -, made⟩
    · exact .inl (same.trans fresh)
    · exact .inr ⟨made, way⟩
  rcases g.places_or_stops [] w.service (isSome_of_mem_visits c.items) with
    ⟨placed, service', places⟩ | ⟨placed, r, d, service', stops⟩
  · obtain ⟨ops, r, templated, reported, does⟩ := g.does_generate c directory placed
    have spares : ∀ op ∈ walkOperations directory (preorderAll [] c.items) placed ++ ops,
        Spares directory op :=
      List.forall_mem_append.2 ⟨spares_walkOperations directory _ placed,
        fun op hop ↦ .template (templated op hop)⟩
    obtain ⟨p, d, rfl, failed⟩ := (does _ _ places).exists_error run
    rcases Files.performAll_concat_eq_error failed with before | ⟨fs₁, done, last, rfl⟩
    · exact or_assoc.1 (.inl (spared spares (congrArg Prod.snd before).symm))
    · -- The manifest is what could not be written.
      rcases Operation.apply_write_eq_error last with ⟨faults, same⟩ | ⟨n, put⟩
      · refine or_assoc.1 (.inl ?_)
        rw [same, Files.get?_withFaults]
        exact spared spares (congrArg Prod.snd done).symm
      · have here : fs₁.locate = w.files.locate := by
          rw [← w.files.locate_performAll, done]
        obtain ⟨-, x, there⟩ := put.placed
        rw [put.locate_eq, here] at there
        refine .inr (.inr ⟨d, r.tools, n, x, rfl, ?_,
          complete_of_puts places templated done put (by rw [reported]; rfl)⟩)
        rw [there, reported]
        rfl
  · obtain ⟨before, does⟩ := stops.does_generate directory
    exact or_assoc.1 (.inl (spared (spares_walkOperations directory before placed)
      (does.files_eq run)))

/-- Any generation may be interrupted when it writes the manifest, and leave the beginning of it. -/
theorem exists_interrupted
    (run : (g.generate c (.directory directory)).perform w = (.ok r, w')) (reason : Files.OsError)
    (n : Nat) :
    ∃ faults v x, (g.generate c (.directory directory)).perform
        { w with files := w.files.withFaults faults } =
          (.error (.write (directory.child Manifest.fileName) reason), v) ∧
      v.files.get? (w.files.locate (directory.child Manifest.fileName)) =
        some (.file ((Content.text (Manifest.generated r.serverName g.mode r.tools).render).take n)
          x) := by
  obtain ⟨placed, service', ops, places, -, -, does, done⟩ := exists_does_of_ok run
  obtain ⟨fs₁, before, written⟩ := Files.performAll_concat_eq_ok done
  obtain ⟨files, cut, put⟩ := Operation.exists_apply_write_eq_error written reason n
  have spared := Files.performAll_withFaults before [some { reason, done := some n }]
  obtain ⟨state, run'⟩ := (does _ _ places).failed (Files.performAll_concat_of_error spared cut)
  have here : fs₁.locate = w.files.locate := by
    rw [← w.files.locate_performAll, before]
  obtain ⟨-, x, there⟩ := put.placed
  rw [put.locate_eq, here] at there
  exact ⟨_, _, x, run', there⟩

/-- A generation fails if a directory stands in the place of the manifest once that of the server
is made, and the directory stays. -/
theorem directory_of_detour {outcome : Except Error Report} {files : Files}
    (made : (Operation.makeDirectories directory).apply w.files = (.ok (), files))
    (there : files.get? (w.files.locate (directory.child Manifest.fileName)) = some .directory)
    (run : (g.generate c (.directory directory)).perform w = (outcome, w')) :
    (∃ e, outcome = .error e) ∧
      w'.files.get? (w.files.locate (directory.child Manifest.fileName)) = some .directory := by
  have stays {ops : List Operation} {outcome' : Except Error Report} {service' : σ}
      (does : (g.generate c (.directory directory)).Does w.service
        (.makeDirectories directory :: ops) outcome' service') :
      w'.files.get? (w.files.locate (directory.child Manifest.fileName)) = some .directory ∧
        w'.files.locate = w.files.locate := by
    rw [does.files_eq run, Files.locate_performAll, Files.performAll_cons_of_ok made]
    exact ⟨Files.directory_performAll ops there, rfl⟩
  have still : w'.files.get? (w.files.locate (directory.child Manifest.fileName)) =
      some .directory ∧ w'.files.locate = w.files.locate := by
    rcases g.places_or_stops [] w.service (isSome_of_mem_visits c.items) with
      ⟨placed, service', places⟩ | ⟨placed, r, d, service', stops⟩
    · obtain ⟨ops, r, -, -, does⟩ := g.does_generate c directory placed
      exact stays (does _ _ places)
    · obtain ⟨before, does⟩ := stops.does_generate directory
      exact stays does
  refine ⟨?_, still.1⟩
  rcases outcome with e | r
  · exact ⟨e, rfl⟩
  · -- The manifest of a generation that succeeds is a file.
    obtain ⟨-, read, -⟩ := exists_complete_of_ok run
    obtain ⟨n, found, text⟩ := bind_eq_ok.1 read
    obtain ⟨-, here⟩ := Files.get?_of_lookup found
    rw [still.2, still.1] at here
    cases here
    cases text

/-! ### Generations into an archive -/

/-- Packing is about the archive only. -/
theorem keeps_writeFrom {motive : Files → Prop}
    (h : ∀ content fs, motive fs → motive ((Operation.write archive content).apply fs).2)
    (among : Files → Files) (source : Path) :
    Job.Keeps motive (Archive.writeFrom among source archive : Job σ Nat) := by
  refine .bind (.operateFor (h _)) fun _ ↦ .bind (fun _ h ↦ h) fun w ↦ ?_
  cases Archive.ofDirectory (among w.files) source with
  | error e => exact .throw _
  | ok entries => exact .bind (.operateFor (h _)) fun _ ↦ .pure _

/-- A generation into an archive leaves all files as they were, unless the server was staged, and it
never changes another file than the archive. -/
theorem files_of_archive {outcome : Except Error Report}
    (run : (g.generate c (.archive archive)).perform w = (outcome, w')) :
    ((∃ faults, w'.files = w.files.withFaults faults) ∨
      ∃ s v, (g.stage c (serverName (c.name.getD ""))).perform
        ⟨{ faults := w.files.faults }, w.service⟩ = (.ok s, v)) ∧
    ∀ names, names ≠ w.files.locate archive → w'.files.get? names = w.files.get? names := by
  constructor
  · rcases done : (g.stage c (serverName (c.name.getD ""))).perform
      ⟨{ faults := w.files.faults }, w.service⟩ with ⟨e | s, v⟩
    · rw [generate, Job.perform_bind, writeTo, writeArchive, Job.perform_bind,
        perform_staged done] at run
      obtain ⟨-, rfl⟩ := Prod.mk.inj run
      exact .inl ⟨_, rfl⟩
    · exact .inr ⟨s, v, rfl⟩
  · intro names ne
    let motive (fs : Files) : Prop :=
      fs.workingDirectory = w.files.workingDirectory ∧ fs.get? names = w.files.get? names
    have put (content : Content) (fs : Files) (h : motive fs) :
        motive ((Operation.write archive content).apply fs).2 := by
      obtain ⟨here, same⟩ := h
      rw [← Files.locate_congr here] at ne
      exact ⟨(Operation.touches_apply _ fs).here.trans here,
        (Operation.get?_apply_write content ne).trans same⟩
    have keeps : Job.Keeps motive (g.generate c (.archive archive)) := by
      refine .bind (.bind (fun w h ↦ ?_) fun p ↦ .bind (keeps_writeFrom put _ _) fun _ ↦ .pure _)
        fun _ ↦ .pure _
      rw [perform_staged rfl]
      exact h
    have kept := keeps w ⟨rfl, rfl⟩
    rw [run] at kept
    exact kept.2

end Generator

/-! ### When a generation looks finished -/

/-- Where the collection of a generation comes from. -/
inductive Source where
  /-- It is given. -/
  | given (c : Collection)
  /-- It is read from a file. -/
  | file (input : Path)

/-- Gets a collection from where it comes from. -/
def Source.fetch : Source → Job σ Collection
  | .given c => return c
  | .file input => do
    match Collection.ofText (← Job.readFile input) with
    | .error e => throw (.parse e)
    | .ok c => return c

/-- Getting a collection leaves the files alone. -/
theorem Source.exists_perform_fetch (source : Source) (w : World σ) :
    ∃ faults, (source.fetch.perform w).2 = { w with files := w.files.withFaults faults } := by
  cases source with
  | given c => exact ⟨w.files.faults, rfl⟩
  | file input =>
    refine ⟨w.files.faults.tail, ?_⟩
    rw [fetch, Job.perform_bind, Job.perform_readFile]
    rcases w.files.fault?.elim (w.files.read input) (fun fault ↦ .error fault.reason) with e | text
    · rfl
    · show (Job.perform (match Collection.ofText text with
        | .error e => throw (.parse e)
        | .ok c => return c) _).2 = _
      cases Collection.ofText text <;> rfl

/-- Generates the server of a collection from where it comes from. -/
def Generator.generateFrom (g : Generator σ) (target : Target) : Source → Job σ Report
  | .given c => g.generate c target
  | .file input => g.generateFile input target

/-- A generation gets its collection first. -/
theorem Generator.perform_generateFrom (source : Source) (target : Target) (w : World σ) :
    (g.generateFrom target source).perform w =
      (source.fetch >>= fun c ↦ g.generate c target).perform w := by
  cases source with
  | given c => rfl
  | file input =>
    rw [generateFrom, generateFile, Source.fetch, bind_assoc, Job.perform_bind, Job.perform_bind]
    rcases (Job.readFile input).perform w with ⟨e | text, w₁⟩
    · rfl
    · show Job.perform _ w₁ = Job.perform _ w₁
      cases Collection.ofText text <;> rfl

/-- What a generation leaves that ended. -/
structure Finishes (g : Generator σ) (source : Source) (target : Target) (w : World σ)
    (outcome : Except Error Report) (w' : World σ) : Prop where
  /-- Where a generation into a directory succeeds, its tools are complete, and the manifest is, and
  tells of them. -/
  succeeded : ∀ directory r, target = .directory directory → outcome = .ok r →
    (∃ c w₁, source.fetch.perform w = (.ok c, w₁) ∧
      Complete g c directory w₁ r.tools w'.files) ∧
    w'.files.read (directory.child Manifest.fileName) =
      .ok (Manifest.generated r.serverName g.mode r.tools).render ∧
    Manifest.load w'.files directory = .ok (.generated r.serverName g.mode r.tools)
  /-- Where it fails and there was no manifest before, there is none. But the path of the directory
  may lead through one of that name, which is made then; and if writing the manifest is what
  failed, the beginning of it may be there, when all tools are complete. -/
  failed : ∀ directory e, target = .directory directory → outcome = .error e →
    w.files.get? (w.files.locate (directory.child Manifest.fileName)) = none →
    w'.files.get? (w.files.locate (directory.child Manifest.fileName)) = none ∨
    (w'.files.get? (w.files.locate (directory.child Manifest.fileName)) = some .directory ∧
      ∃ way ∈ w.files.detours directory,
        w.files.locate (directory.child Manifest.fileName) <+: way) ∨
    ∃ reason c w₁ tools n x, e = .write (directory.child Manifest.fileName) reason ∧
      source.fetch.perform w = (.ok c, w₁) ∧
      w'.files.get? (w.files.locate (directory.child Manifest.fileName)) =
        some (.file ((Content.text (Manifest.generated (serverName (c.name.getD "")) g.mode
          tools).render).take n) x) ∧
      Complete g c directory w₁ tools w'.files
  /-- A generation into an archive leaves all files as they were, unless the server was staged, and
  packing has begun. -/
  unpacked : ∀ archive, target = .archive archive →
    (∃ faults, w'.files = w.files.withFaults faults) ∨
    ∃ c w₁ s v, source.fetch.perform w = (.ok c, w₁) ∧
      (g.stage c (serverName (c.name.getD ""))).perform
        ⟨{ faults := w₁.files.faults }, w₁.service⟩ = (.ok s, v)
  /-- It never changes another file than the archive. -/
  elsewhere : ∀ archive, target = .archive archive → ∀ names, names ≠ w.files.locate archive →
    w'.files.get? names = w.files.get? names

/-- When a generation looks finished, whatever happens to its operations. Where a directory has no
manifest, there is a file of that name afterwards if the generation succeeds, and then it tells of
the tools, the file of each of which was written completely. If the generation fails, there is no
such file, except for the beginning of one that could not be written completely, when all tools had
been. A generation into an archive that fails before packing leaves the archive as it was, or
missing. -/
theorem Generator.generateFrom_finishes {source : Source} {target : Target}
    {outcome : Except Error Report}
    (run : (g.generateFrom target source).perform w = (outcome, w')) :
    Finishes g source target w outcome w' := by
  obtain ⟨faults, left⟩ := source.exists_perform_fetch w
  rw [perform_generateFrom, Job.perform_bind] at run
  rcases fetched : source.fetch.perform w with ⟨e | c, w₁⟩ <;> rw [fetched] at run left
  · -- Nothing was done.
    obtain ⟨rfl, rfl⟩ := Prod.mk.inj run
    obtain rfl : w₁ = _ := left
    exact {
      succeeded := fun _ _ _ failed ↦ (nomatch failed)
      failed := fun _ _ _ _ fresh ↦ .inl fresh
      unpacked := fun _ _ ↦ .inl ⟨faults, rfl⟩
      elsewhere := fun _ _ _ _ ↦ rfl }
  · have run : (g.generate c target).perform w₁ = (outcome, w') := run
    obtain rfl : w₁ = _ := left
    refine {
      succeeded := ?_
      failed := ?_
      unpacked := ?_
      elsewhere := ?_ }
    · rintro directory r rfl rfl
      obtain ⟨complete, read, loaded⟩ := exists_complete_of_ok run
      exact ⟨⟨c, _, fetched, complete⟩, read, loaded⟩
    · rintro directory e rfl rfl fresh
      rcases manifest_of_error run fresh with
        none | way | ⟨reason, tools, n, x, told, there, complete⟩
      · exact .inl none
      · exact .inr (.inl way)
      · exact .inr (.inr ⟨reason, c, _, tools, n, x, told, fetched, there, complete⟩)
    · rintro archive rfl
      rcases (files_of_archive run).1 with ⟨faults', same⟩ | ⟨s, v, staged⟩
      · exact .inl ⟨faults', same⟩
      · exact .inr ⟨c, _, s, v, fetched, staged⟩
    · rintro archive rfl
      exact (files_of_archive run).2

open CommandLine.Serve in
/-- The server of two pets is finished, as it was generated. -/
theorem Generator.generateFrom_finishes_twoPets :
    ∃ (r : Report) (w' : World Unit) (m : Manifest),
      (numbering.generateFrom (.directory ⟨"out", []⟩) (.given twoPets)).perform ⟨{}, ()⟩ =
        (.ok r, w') ∧
      w'.files.read (Path.child ⟨"out", []⟩ Manifest.fileName) = .ok m.render ∧
      Manifest.load w'.files ⟨"out", []⟩ = .ok m ∧ m.tools = ["pet", "pet2"] := by
  obtain ⟨r, w', run, tools⟩ := exists_generate_twoPets
  have run : (numbering.generateFrom (.directory ⟨"out", []⟩) (.given twoPets)).perform ⟨{}, ()⟩ =
    (.ok r, w') := run
  obtain ⟨-, read, loaded⟩ := (generateFrom_finishes run).succeeded _ r rfl rfl
  exact ⟨r, w', _, run, read, loaded, tools⟩

open CommandLine.Serve in
/-- Two generations of the server of two pets that fail and leave something in the place of the
manifest, where nothing was before: the path of one leads through a directory of that name, and the
disk is full when the other writes the manifest. -/
theorem Generator.generateFrom_leaves_manifest :
    (∃ (e : Error) (w' : World Unit),
      (numbering.generateFrom (.directory ⟨"out/mcp-server.json/..", []⟩) (.given twoPets)).perform
        ⟨{}, ()⟩ = (.error e, w') ∧
      w'.files.get? ["out", "mcp-server.json"] = some .directory) ∧
    ∃ (faults : List (Option Files.Fault)) (e : Error) (w' : World Unit) (x : Bool),
      (numbering.generateFrom (.directory ⟨"out", []⟩) (.given twoPets)).perform
        ⟨{ faults }, ()⟩ = (.error e, w') ∧
      w'.files.get? ["out", "mcp-server.json"] = some (.file (.text "") x) := by
  constructor
  · let directory : Path := ⟨"out/mcp-server.json/..", []⟩
    have place : Files.locate {} (directory.child Manifest.fileName) =
      ["out", "mcp-server.json"] := by decide +kernel
    have done : ((Operation.makeDirectories directory).apply {}).1 = .ok () := by decide +kernel
    have there : ((Operation.makeDirectories directory).apply {}).2.get?
      ["out", "mcp-server.json"] = some .directory := by decide +kernel
    rcases run : (numbering.generate twoPets (.directory directory)).perform ⟨{}, ()⟩ with
      ⟨outcome, w'⟩
    rw [← place] at there
    obtain ⟨⟨e, rfl⟩, still⟩ := directory_of_detour (Prod.ext done rfl) there run
    rw [place] at still
    exact ⟨e, w', run, still⟩
  · have place : Files.locate {} (Path.child ⟨"out", []⟩ Manifest.fileName) =
      ["out", "mcp-server.json"] := by decide +kernel
    obtain ⟨r, w', run, -⟩ := exists_generate_twoPets
    obtain ⟨faults, v, x, run', there⟩ :=
      exists_interrupted run (.other "No space left on device (os error 28)") 0
    rw [place] at there
    exact ⟨faults, _, v, x, run', there⟩

end Toolsmith.Generation
