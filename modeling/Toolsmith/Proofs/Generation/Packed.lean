import Toolsmith.Proofs.Files.Order
import Toolsmith.Proofs.Generation.Alike
import Toolsmith.Proofs.Generation.Writing
import Toolsmith.Proofs.Text.Split

/-!
# Archives of servers

A server that is packed into an archive was written into a directory that no one else sees. That
directory held what the directory of the same server holds that is not packed, and a walk finds all
of it, each directory and file once. So the archive has their entries: the script that starts the
server is the only file that can be executed in either.

## Main definitions

* `Generation.entryOf`: the entry of a directory or file.
* `Generation.Generator.stage`: writes a server into the staging directory.

## Main statements

* `Generation.Archive.ofDirectory_eq_ok`: the entries of a directory.
* `Generation.packed_eq_entryOf`: what is packed of a server.
* `Generation.Generator.generate_archive`: a server in an archive and in a directory.
-/

namespace Toolsmith.Generation

open Files (Content Node Operation Packed)

variable {names names' : List String} {n n' : Node} {files : Files}

/-! ### Entries -/

/-- The entry of what some names lead to: its name has slashes between those, and one at the end for
a directory; it holds what a file holds, and it can be executed where the file can be. -/
def entryOf : List String × Node → Packed
  | (names, .directory) => { name := "/".intercalate names ++ "/", executable := true, text := "" }
  | (names, .file content x) =>
    { name := "/".intercalate names, executable := x, text := Archive.contentText content }

/-- The name of an entry tells the names that lead to it. -/
theorem splitOn_intercalate (ne : names ≠ []) (isName : ∀ name ∈ names, Path.IsName name) :
    List.splitOn '/' ("/".intercalate names).toList = names.map String.toList := by
  have slash : "/".toList = ['/'] := rfl
  rw [Text.toList_intercalate slash]
  refine List.splitOn_intercalate '/' ?_ (mt List.map_eq_nil_iff.1 ne)
  exact List.forall_mem_map.2 fun name hn ↦ (isName name hn).slash_notMem

theorem intercalate_injective (ne : names ≠ []) (isName : ∀ name ∈ names, Path.IsName name)
    (ne' : names' ≠ []) (isName' : ∀ name ∈ names', Path.IsName name)
    (h : "/".intercalate names = "/".intercalate names') : names = names' := by
  have parts := splitOn_intercalate ne isName
  rw [h, splitOn_intercalate ne' isName'] at parts
  exact (List.map_injective_iff.2 fun _ _ ↦ String.toList_inj.1) parts.symm

/-- The parts of the name of an entry, but for the empty one at the end of a directory's, are the
names that lead there. -/
theorem parts_entryOf (ne : names ≠ []) (isName : ∀ name ∈ names, Path.IsName name) (n : Node) :
    (List.splitOn '/' (entryOf (names, n)).name.toList).filter (· ≠ []) =
      names.map String.toList := by
  have whole : (names.map String.toList).filter (· ≠ []) = names.map String.toList :=
    List.filter_eq_self.2 (List.forall_mem_map.2 fun name hn ↦
      decide_eq_true (isName name hn).ne_empty)
  cases n with
  | file content x => rw [entryOf, splitOn_intercalate ne isName, whole]
  | directory =>
    have slash : "/".toList = '/' :: [] := rfl
    rw [entryOf, String.toList_append, slash, List.splitOn_append_cons_self,
      splitOn_intercalate ne isName, List.filter_append, whole]
    exact List.append_nil _

/-- Entries of one name are those of the same directory or file. -/
theorem name_entryOf_injective (ne : names ≠ []) (isName : ∀ name ∈ names, Path.IsName name)
    (ne' : names' ≠ []) (isName' : ∀ name ∈ names', Path.IsName name)
    (h : (entryOf (names, n)).name = (entryOf (names', n')).name) : names = names' := by
  have parts := parts_entryOf ne isName n
  rw [h, parts_entryOf ne' isName' n'] at parts
  exact (List.map_injective_iff.2 fun _ _ ↦ String.toList_inj.1) parts.symm

/-- What is packed of a server is its entry, as its script alone can be executed. -/
theorem packed_eq_entryOf (ne : names ≠ []) (proper : Proper names n)
    (script : ∀ content x, n = .file content x → names = [Template.startScript] → x = true) :
    Archive.packed names n = entryOf (names, n) := by
  cases n with
  | directory => rfl
  | file content x =>
    obtain ⟨isName, file⟩ := proper
    have start : Path.IsName Template.startScript := by decide
    have alone : "/".intercalate [Template.startScript] = Template.startScript :=
      String.intercalate_singleton
    have marked : decide ("/".intercalate names = Template.startScript) = x := by
      rw [Bool.eq_iff_iff, decide_eq_true_iff]
      constructor
      · intro named
        rw [← alone] at named
        exact script content x rfl (intercalate_injective ne isName (List.cons_ne_nil _ _)
          (List.forall_mem_singleton.2 start) named)
      · intro executable
        rw [(file content x rfl).2 executable, alone]
    simp only [Archive.packed, entryOf, marked]

/-! ### Entries of a directory -/

theorem namesFrom_descend (source : Path) (names : List String) :
    Archive.namesFrom source (source.descend names) = names :=
  List.drop_left

/-- A directory in which everything can be reached is packed: each directory and file in it, and
none twice. -/
theorem Archive.ofDirectory_eq_ok {source : Path} (passes : files.Passes source)
    (there : files.get? (files.locate source) = some .directory)
    (reach : ∀ {names n}, files.get? (files.locate source ++ names) = some n →
      files.Reach (files.locate source ++ names)) :
    ∃ found : List (List String × Node),
      ofDirectory files source = .ok (found.map fun e ↦ packed e.1 e.2) ∧
      (found.map (·.1)).Nodup ∧
      ∀ names n, (names, n) ∈ found ↔
        names ≠ [] ∧ files.get? (files.locate source ++ names) = some n := by
  obtain ⟨found, walked, sorted, mem⟩ := Files.exists_walk passes there reach
  have self : ([], Node.directory) ∈ found := by
    rw [mem, List.append_nil]
    exact there
  -- The directory comes first, as no names lead there.
  cases found with
  | nil => cases self
  | cons e rest =>
    obtain ⟨least, apart⟩ := List.pairwise_cons.1 sorted
    obtain rfl : ([], Node.directory) = e := by
      rcases List.mem_cons.1 self with first | later
      · exact first
      · exact absurd (least _ later) (List.not_lt_nil _)
    refine ⟨rest, ?_, List.pairwise_map.2 (apart.imp fun lt ↦ ne_of_lt lt), fun names n ↦ ?_⟩
    · rw [ofDirectory, walked]
      show Except.ok _ = _
      rw [List.map_cons, List.tail_cons, List.map_map]
      refine congrArg Except.ok (List.map_congr_left fun e _ ↦ ?_)
      simp only [Function.comp, Prod.map, namesFrom_descend, id]
    · rw [← mem names n, List.mem_cons]
      constructor
      · intro he
        exact ⟨fun none ↦ List.not_lt_nil _ (none ▸ least _ he), .inr he⟩
      · rintro ⟨ne, first | he⟩
        · exact absurd (congrArg Prod.fst first) ne
        · exact he

/-- What is packed has nothing to do with what happens to operations. -/
theorem Archive.ofDirectory_withFaults (files : Files) (faults : List (Option Files.Fault))
    (source : Path) : ofDirectory (files.withFaults faults) source = ofDirectory files source := by
  rw [ofDirectory, ofDirectory, Files.walk_withFaults]

/-! ### Runs taken apart -/

variable {σ α : Type} {w w' : World σ}

namespace Generator

/-- Staging a job restores the files, but for what happens next, whether it succeeds or fails, and
tells the files that it left behind. -/
theorem perform_staged {job : Path → Job σ α} {outcome : Except Error α} {v : World σ}
    (done : (do Job.operateFor temporary (.makeDirectories staging)
                job staging).perform ⟨{ faults := w.files.faults }, w.service⟩ = (outcome, v)) :
    (staged job).perform w = (outcome.map fun a ↦ (a, v.files),
      { v with files := w.files.withFaults v.files.faults }) := by
  have got (w : World σ) : Job.perform get w = (.ok w, w) := rfl
  have moved (files : Files) (w : World σ) :
      Job.perform (modify fun w ↦ { w with files }) w = (.ok (), { w with files }) := rfl
  have lifted (x : Job σ α) (w : World σ) :
      Job.perform (ExceptT.lift x.run) w = (.ok (x.perform w).1, (x.perform w).2) := rfl
  have tried := lifted (do
    Job.operateFor temporary (.makeDirectories staging)
    job staging) ⟨{ faults := w.files.faults }, w.service⟩
  rw [done] at tried
  refine Job.bind_of_ok (got w) (Job.bind_of_ok (moved { faults := w.files.faults } w)
    (Job.bind_of_ok tried (Job.bind_of_ok (got v)
      (Job.bind_of_ok (moved (w.files.withFaults v.files.faults) v) ?_))))
  cases outcome <;> rfl

variable {g : Generator σ} {c : Collection} {name : String} {s : Summary}

/-- A run that succeeded wrote the server to its target, and reports of the walk. -/
theorem generate_eq_ok_iff {target : Target} {r : Report} :
    (g.generate c target).perform w = (.ok r, w') ↔
      ∃ s, (g.writeTo c (serverName (c.name.getD "")) target).result w = .ok (s, w') ∧
        reportOf c s target.path = r := by
  have parts : (g.generate c target).result w =
      (g.writeTo c (serverName (c.name.getD "")) target).result w >>= fun p ↦
        .ok (reportOf c p.1 target.path, p.2) := Job.result_bind _ _ w
  rw [← Job.result_eq_ok, parts, bind_eq_ok]
  constructor
  · rintro ⟨⟨s, v⟩, written, told⟩
    cases told
    exact ⟨s, written, rfl⟩
  · rintro ⟨s, written, rfl⟩
    exact ⟨_, written, rfl⟩

/-- A server in a directory was written there, once the directory was made. -/
theorem writeTo_directory_eq_ok {directory : Path} :
    (g.writeTo c name (.directory directory)).result w = .ok (s, w') ↔
      ∃ files, (Operation.makeDirectories directory).apply w.files = (.ok (), files) ∧
        (g.writeServer c name directory).perform { w with files } = (.ok s, w') := by
  rw [Job.result_eq_ok]
  constructor
  · intro run
    obtain ⟨_, ⟨files, service⟩, made, server⟩ := Job.bind_eq_ok run
    obtain ⟨made, rfl⟩ := Job.operateFor_eq_ok.1 made
    exact ⟨files, made, server⟩
  · rintro ⟨files, made, server⟩
    exact Job.bind_of_ok (Job.operateFor_of_ok _ made) server

/-- Writes a server into the staging directory, which is made first. -/
def stage (g : Generator σ) (c : Collection) (name : String) : Job σ Summary := do
  Job.operateFor temporary (.makeDirectories staging)
  g.writeServer c name staging

/-- A server that was staged was written once the staging directory was made. -/
theorem stage_eq_ok : (g.stage c name).perform w = (.ok s, w') ↔
    ∃ files, (Operation.makeDirectories staging).apply w.files = (.ok (), files) ∧
      (g.writeServer c name staging).perform { w with files } = (.ok s, w') := by
  constructor
  · intro run
    obtain ⟨_, ⟨files, service⟩, made, server⟩ := Job.bind_eq_ok run
    obtain ⟨made, rfl⟩ := Job.operateFor_eq_ok.1 made
    exact ⟨files, made, server⟩
  · rintro ⟨files, made, server⟩
    exact Job.bind_of_ok (Job.operateFor_of_ok _ made) server

/-- Packing files that do not change writes the archive twice: when it is made, and when the entries
are known. -/
theorem writeFrom_eq_ok {source archive : Path} {stagedFiles : Files} {n : Nat} :
    (Archive.writeFrom (fun _ ↦ stagedFiles) source archive : Job σ Nat).perform w = (.ok n, w') ↔
      ∃ files entries, (Operation.write archive (.archive [])).apply w.files = (.ok (), files) ∧
        Archive.ofDirectory stagedFiles source = .ok entries ∧
        (Operation.write archive (.archive entries)).apply files = (.ok (), w'.files) ∧
        w'.service = w.service ∧ n = Archive.fileCount entries := by
  have got (w : World σ) : Job.perform get w = (.ok w, w) := rfl
  constructor
  · intro run
    obtain ⟨_, ⟨files, service⟩, made, rest⟩ := Job.bind_eq_ok run
    obtain ⟨made, rfl⟩ := Job.operateFor_eq_ok.1 made
    obtain ⟨_, _, here, rest⟩ := Job.bind_eq_ok rest
    cases here
    rcases packed : Archive.ofDirectory stagedFiles source with e | entries <;>
      simp only [packed] at rest
    · cases rest
    · obtain ⟨_, v, written, last⟩ := Job.bind_eq_ok rest
      obtain ⟨rfl, rfl⟩ := Job.pure_eq_ok last
      obtain ⟨written, service⟩ := Job.operateFor_eq_ok.1 written
      exact ⟨files, entries, made, rfl, written, service, rfl⟩
  · rintro ⟨files, entries, made, packed, written, service, rfl⟩
    refine Job.bind_of_ok (Job.operateFor_of_ok _ made) (Job.bind_of_ok (got _) ?_)
    simp only [packed]
    exact Job.bind_of_ok (Job.operateFor_eq_ok.2 ⟨written, service⟩) rfl

/-- A server in an archive was staged, and the staging directory was packed. -/
theorem writeTo_archive_eq_ok {archive : Path} :
    (g.writeTo c name (.archive archive)).result w = .ok (s, w') ↔
      ∃ v n, (g.stage c name).perform ⟨{ faults := w.files.faults }, w.service⟩ = (.ok s, v) ∧
        (Archive.writeFrom (fun _ ↦ v.files) staging archive).perform
          { v with files := w.files.withFaults v.files.faults } = (.ok n, w') := by
  rw [Job.result_eq_ok]
  rcases done : (g.stage c name).perform ⟨{ faults := w.files.faults }, w.service⟩ with
    ⟨outcome, v⟩
  have staged := perform_staged done
  constructor
  · intro run
    obtain ⟨⟨s', files⟩, v', first, rest⟩ := Job.bind_eq_ok run
    obtain ⟨n, _, packed, last⟩ := Job.bind_eq_ok rest
    obtain ⟨rfl, rfl⟩ := Job.pure_eq_ok last
    rw [staged] at first
    cases outcome with
    | error e => cases first
    | ok s =>
      cases first
      exact ⟨v, n, rfl, packed⟩
  · rintro ⟨_, n, ⟨⟩, packed⟩
    exact Job.bind_of_ok staged (Job.bind_of_ok packed rfl)

/-! ### Both targets -/

/-- Of two directories that hold the same, the second one is packed into entries of what stands in
the first. -/
theorem exists_packed {files' : Files} {root root' : Path} (twins : Twins files files' root root')
    {content : Content}
    (script : files'.get? (files'.locate (root'.child Template.startScript)) =
      some (.file content true)) :
    ∃ found : List (List String × Node),
      Archive.ofDirectory files' root' = .ok (found.map entryOf) ∧
      (found.map fun e ↦ (entryOf e).name).Nodup ∧
      ∀ names n, (names, n) ∈ found ↔
        names ≠ [] ∧ files.get? (files.locate root ++ names) = some n := by
  have reach {names : List String} {n : Node}
      (there : files'.get? (files'.locate root' ++ names) = some n) :
      files'.Reach (files'.locate root' ++ names) :=
    (twins.reach_iff names).1 (twins.reach ((twins.same names).trans there))
  obtain ⟨found, packed, distinct, mem⟩ :=
    Archive.ofDirectory_eq_ok twins.leads'.passes twins.directory' reach
  have proper {e : List String × Node} (he : e ∈ found) : e.1 ≠ [] ∧ Proper e.1 e.2 := by
    obtain ⟨ne, there⟩ := (mem e.1 e.2).1 he
    exact ⟨ne, twins.proper ((twins.same e.1).trans there)⟩
  refine ⟨found, ?_, ?_, fun names n ↦ by rw [mem, twins.same]⟩
  · rw [packed]
    refine congrArg Except.ok (List.map_congr_left fun e he ↦ ?_)
    obtain ⟨ne, prop⟩ := proper he
    refine packed_eq_entryOf ne prop fun content' x file named ↦ ?_
    have there := ((mem e.1 e.2).1 he).2
    rw [file, named, ← Files.locate_descend, ← Path.child_eq_descend, script] at there
    cases there
    rfl
  · refine List.pairwise_map.2 ((List.pairwise_map.1 distinct).imp_of_mem fun hd he ne same ↦ ?_)
    obtain ⟨ne_d, isName_d, -⟩ := proper hd
    obtain ⟨ne_e, isName_e, -⟩ := proper he
    exact ne (name_entryOf_injective ne_d isName_d ne_e isName_e same)

theorem executable_of_writeServer {root : Path}
    (h : (g.writeServer c name root).perform w = (.ok s, w')) :
    ∃ content, w'.files.get? (w'.files.locate (root.child Template.startScript)) =
      some (.file content true) := by
  obtain ⟨_, _, -, extras⟩ := writeServer_eq_ok h
  exact executable_of_writeExtras extras

/-- A server that was written is written as well where nothing happens. -/
theorem mended_writeServer {root : Path}
    (h : (g.writeServer c name root).perform w = (.ok s, w')) :
    (g.writeServer c name root).perform w.mended = (.ok s, w'.mended) := by
  obtain ⟨_, _, _, does⟩ := g.exists_does_writeServer c name root w.service
  exact does.mended h

/-- The staging directory is empty once it was made. -/
theorem bare_staging {faults : List (Option Files.Fault)}
    (made : (Operation.makeDirectories staging).apply { faults } = (.ok (), files)) :
    Bare files staging := by
  have empty : Files.EmptyBelow { faults } staging := fun _ _ ↦ rfl
  have passes : Files.Passes { faults } staging := Files.passes_of_detours_eq_nil rfl
  obtain ⟨-, fs₁, whole, -⟩ := Operation.apply_eq_ok.1 made
  exact .of_apply (emptyBelow_makeDirectories passes empty (congrArg Prod.fst whole)) made

/-- The staging directory is made, if nothing happens. -/
theorem exists_staging : ∃ files : Files,
    (Operation.makeDirectories staging).apply {} = (.ok (), files.mended) := by
  have made : (Files.makeDirectories {} staging).1 = .ok () := by decide +kernel
  have whole : Operation.whole {} (.makeDirectories staging) =
      (.ok (), (Files.makeDirectories {} staging).2) := Prod.ext made rfl
  exact ⟨_, Operation.apply_of_whole rfl whole⟩

/-- Entries are packed where the path of the archive leads, unless there is a directory or something
happens. -/
theorem exists_writeFrom (healthy : w.files.faults = []) {archive : Path}
    (leads : w.files.Leads archive)
    (free : w.files.get? (w.files.locate archive) ≠ some .directory) {source : Path}
    {stagedFiles : Files} {entries : List Packed}
    (packed : Archive.ofDirectory stagedFiles source = .ok entries) :
    ∃ n w', (Archive.writeFrom (fun _ ↦ stagedFiles) source archive).perform w = (.ok n, w') := by
  obtain ⟨files, made, healthy'⟩ := Operation.exists_apply_write healthy leads free (.archive [])
  obtain ⟨leads', x, there⟩ := (Operation.puts_of_apply made).placed
  have free' : files.get? (files.locate archive) ≠ some .directory := by simp [there]
  obtain ⟨files', written, -⟩ :=
    Operation.exists_apply_write healthy' leads' free' (.archive entries)
  exact ⟨_, { w with files := files' },
    writeFrom_eq_ok.2 ⟨files, entries, made, packed, written, rfl, rfl⟩⟩

/-- A server is written alike into two empty directories, if nothing happens. -/
theorem agree_of_bare (g : Generator σ) (c : Collection) (name : String) {root root' : Path}
    {v : World σ} (h : Bare w.files root) (h' : Bare v.files root')
    (same : v.service = w.service) :
    Agree
      (fun p q ↦ p.1.Alike (root.child toolsDirectory) (root'.child toolsDirectory) q.1 ∧
        p.2.Alike root root' q.2)
      ((g.writeServer c name root).result w.mended)
      ((g.writeServer c name root').result v.mended) :=
  g.alike_writeServer c name ⟨.bare rfl h.mended h'.mended, same⟩

/-- A server that is written into an empty directory, and staged as well, holds the same in both,
and what was staged is packed into the entries of that. -/
theorem exists_entries {directory : Path} {v u : World σ} {s' : Summary}
    (bare : Bare w.files directory)
    (server : (g.writeServer c name directory).perform w = (.ok s, w'))
    (staged : (g.stage c name).perform v = (.ok s', u)) (none : ∃ faults, v.files = { faults })
    (same : v.service = w.service) :
    s.Alike (directory.child toolsDirectory) (staging.child toolsDirectory) s' ∧
      w'.mended.Alike directory staging u.mended ∧
      ∃ found : List (List String × Node),
        Archive.ofDirectory u.files staging = .ok (found.map entryOf) ∧
        (found.map fun e ↦ (entryOf e).name).Nodup ∧
        ∀ names n, (names, n) ∈ found ↔
          names ≠ [] ∧ w'.files.get? (w'.files.locate directory ++ names) = some n := by
  obtain ⟨faults, none⟩ := none
  obtain ⟨files, made, server'⟩ := stage_eq_ok.1 staged
  rw [none] at made
  have agree := agree_of_bare g c name bare (v := { v with files }) (bare_staging made) same
  obtain ⟨told, alike⟩ := agree.of_ok (Job.result_eq_ok.2 (mended_writeServer server))
    (Job.result_eq_ok.2 (mended_writeServer server'))
  obtain ⟨content, script⟩ := executable_of_writeServer server'
  obtain ⟨found, packed, entries⟩ := exists_packed alike.files script
  have packed : Archive.ofDirectory (u.files.withFaults []) staging = _ := packed
  rw [Archive.ofDirectory_withFaults] at packed
  exact ⟨told, alike, found, packed, entries⟩

/-- A server that was written to an archive was written into the staging directory, and the archive
has the entries of that. -/
theorem exists_entries_of_writeTo {archive : Path}
    (h : (g.writeTo c name (.archive archive)).result w = .ok (s, w')) :
    ∃ (u v : World σ) (found : List (List String × Node)) (x : Bool),
      (g.writeServer c name staging).perform u = (.ok s, v) ∧
      w'.files.get? (w'.files.locate archive) = some (.file (.archive (found.map entryOf)) x) ∧
      (found.map fun e ↦ (entryOf e).name).Nodup ∧
      ∀ names n, (names, n) ∈ found ↔
        names ≠ [] ∧ v.files.get? (v.files.locate staging ++ names) = some n := by
  obtain ⟨v, n, staged, packing⟩ := writeTo_archive_eq_ok.1 h
  obtain ⟨files, made, server⟩ := stage_eq_ok.1 staged
  obtain ⟨-, -, found, packed, distinct, mem⟩ :=
    exists_entries (bare_staging made) server staged ⟨_, rfl⟩ rfl
  obtain ⟨_, entries, -, packed', put, -⟩ := writeFrom_eq_ok.1 packing
  cases packed.symm.trans packed'
  obtain ⟨-, x, there⟩ := (Operation.puts_of_apply put).placed
  exact ⟨_, v, found, x, server, there, distinct, mem⟩

/-- Where a server can be generated into a directory that is empty once it is made, it can be
generated into an archive as well that can be written, if nothing happens to operations. -/
theorem exists_generate_archive {g : Generator σ} {c : Collection} {directory archive : Path}
    {w w' v : World σ} {r : Report}
    (empty : (w.files.makeDirectories directory).2.EmptyBelow directory)
    (same : v.service = w.service)
    (run : (g.generate c (.directory directory)).perform w = (.ok r, w'))
    (leads : v.files.Leads archive)
    (free : v.files.get? (v.files.locate archive) ≠ some .directory) :
    ∃ r' v', (g.generate c (.archive archive)).perform v.mended = (.ok r', v') := by
  obtain ⟨s, written, -⟩ := generate_eq_ok_iff.1 run
  obtain ⟨files, made, server⟩ := writeTo_directory_eq_ok.1 written
  obtain ⟨files', made'⟩ := exists_staging
  have agree := agree_of_bare g c (serverName (c.name.getD "")) (w := { w with files })
    (v := ⟨files'.mended, v.service⟩) (.of_apply empty made) (bare_staging made') same
  have server₀ := Job.result_eq_ok.2 (mended_writeServer server)
  obtain ⟨⟨s', u⟩, server'⟩ := agree.exists_iff.1 ⟨_, server₀⟩
  obtain ⟨-, alike⟩ := agree.of_ok server₀ server'
  have staged : (g.stage c (serverName (c.name.getD ""))).perform ⟨{ faults := [] }, v.service⟩ =
      (.ok s', u) := stage_eq_ok.2 ⟨_, made', Job.result_eq_ok.1 server'⟩
  obtain ⟨-, -, found, packed, -⟩ :=
    exists_entries (.of_apply empty made) server staged ⟨[], rfl⟩ same
  obtain ⟨n, v', packing⟩ := exists_writeFrom
    (w := { u with files := v.files.withFaults u.files.faults }) alike.files.faults
    ((Files.leads_withFaults ..).2 leads) free packed
  exact ⟨_, v', generate_eq_ok_iff.2 ⟨s', writeTo_archive_eq_ok.2 ⟨u, n, staged, packing⟩, rfl⟩⟩

/-- Where a server can be generated into an archive, it can be generated into a directory as well
that can be made and is empty then, if nothing happens to operations. -/
theorem exists_generate_directory {g : Generator σ} {c : Collection} {directory archive : Path}
    {w v v' : World σ} {r' : Report}
    (empty : (w.files.makeDirectories directory).2.EmptyBelow directory)
    (same : v.service = w.service)
    (run : (g.generate c (.archive archive)).perform v = (.ok r', v'))
    (made : (w.files.makeDirectories directory).1 = .ok ()) :
    ∃ r w', (g.generate c (.directory directory)).perform w.mended = (.ok r, w') := by
  obtain ⟨s', written, -⟩ := generate_eq_ok_iff.1 run
  obtain ⟨u, n, staged, -⟩ := writeTo_archive_eq_ok.1 written
  obtain ⟨files', made', server'⟩ := stage_eq_ok.1 staged
  have whole : Operation.whole w.files (.makeDirectories directory) =
      (.ok (), (w.files.makeDirectories directory).2) := Prod.ext made rfl
  have once := Operation.apply_mended_of_whole whole
  have empty : (w.files.mended.makeDirectories directory).2.EmptyBelow directory := by
    rw [Files.mended, Files.makeDirectories_withFaults]
    exact empty
  have agree := agree_of_bare g c (serverName (c.name.getD "")) (w := { w with files := _ })
    (v := { v with files := files' }) (.of_apply empty once) (bare_staging made') same
  obtain ⟨⟨s, w'⟩, server⟩ :=
    agree.exists_iff.2 ⟨_, Job.result_eq_ok.2 (mended_writeServer server')⟩
  exact ⟨_, w', generate_eq_ok_iff.2 ⟨s, writeTo_directory_eq_ok.2
    ⟨_, once, Job.result_eq_ok.1 server⟩, rfl⟩⟩

/-- A server that is generated into an archive is the one that is generated into a directory which
is empty once it is made, whatever else is among the files: the archive holds one entry for each
directory and file in the directory, under the names that lead there, with the same text, and it can
be executed where the file can be. The reports tell the same but for the path, and the augmentor is
left in the same state. Where the archive can be written and the directory be made, and nothing
happens to operations, either both runs succeed or neither does. -/
theorem generate_archive (g : Generator σ) (c : Collection) {directory archive : Path}
    {w v : World σ} (empty : (w.files.makeDirectories directory).2.EmptyBelow directory)
    (same : v.service = w.service) :
    (∀ r r' w' v', (g.generate c (.directory directory)).perform w = (.ok r, w') →
      (g.generate c (.archive archive)).perform v = (.ok r', v') →
      r.output = directory ∧ r' = { r with output := archive } ∧ v'.service = w'.service ∧
      ∃ (found : List (List String × Node)) (x : Bool),
        v'.files.get? (v'.files.locate archive) =
          some (.file (.archive (found.map entryOf)) x) ∧
        (found.map fun e ↦ (entryOf e).name).Nodup ∧
        (∀ names n, (names, n) ∈ found ↔
          names ≠ [] ∧ w'.files.get? (w'.files.locate directory ++ names) = some n) ∧
        ∀ names content x, (names, .file content x) ∈ found → ∃ t, content = .text t) ∧
    ((∃ r w', (g.generate c (.directory directory)).perform w = (.ok r, w')) →
      v.files.Leads archive →
      v.files.get? (v.files.locate archive) ≠ some .directory →
      ∃ r' v', (g.generate c (.archive archive)).perform v.mended = (.ok r', v')) ∧
    ((∃ r' v', (g.generate c (.archive archive)).perform v = (.ok r', v')) →
      (w.files.makeDirectories directory).1 = .ok () →
      ∃ r w', (g.generate c (.directory directory)).perform w.mended = (.ok r, w')) := by
  refine ⟨fun r r' w' v' run run' ↦ ?_, ?_, ?_⟩
  · obtain ⟨s, written, rfl⟩ := generate_eq_ok_iff.1 run
    obtain ⟨s', written', rfl⟩ := generate_eq_ok_iff.1 run'
    obtain ⟨files, made, server⟩ := writeTo_directory_eq_ok.1 written
    obtain ⟨u, n, staged, packing⟩ := writeTo_archive_eq_ok.1 written'
    obtain ⟨told, alike, found, packed, distinct, mem⟩ :=
      exists_entries (.of_apply empty made) server staged ⟨_, rfl⟩ same
    obtain ⟨_, entries, -, packed', put, service, -⟩ := writeFrom_eq_ok.1 packing
    cases packed.symm.trans packed'
    obtain ⟨-, x, there⟩ := (Operation.puts_of_apply put).placed
    refine ⟨rfl, ?_, service.trans alike.service, found, x, there, distinct, mem,
      fun names content x he ↦ ?_⟩
    · rw [reportOf, reportOf, told.artifacts_eq, told.skipped]
      rfl
    · exact ((alike.files.proper ((mem _ _).1 he).2).2 content x rfl).1
  · rintro ⟨r, w', run⟩ leads free
    exact exists_generate_archive empty same run leads free
  · rintro ⟨r', v', run⟩ made
    exact exists_generate_directory empty same run made

open CommandLine.Serve in
/-- Two pets are packed, with the script that serves them. -/
theorem generate_archive_twoPets :
    ∃ (r r' : Report) (w' v' : World Unit) (entries : List Packed) (x : Bool) (t : String),
      (numbering.generate twoPets (.directory ⟨"out", []⟩)).perform ⟨{}, ()⟩ = (.ok r, w') ∧
      (numbering.generate twoPets (.archive ⟨"out.zip", []⟩)).perform ⟨{}, ()⟩ = (.ok r', v') ∧
      r'.tools = ["pet", "pet2"] ∧ r'.skipped = r.skipped ∧
      v'.files.get? (v'.files.locate ⟨"out.zip", []⟩) = some (.file (.archive entries) x) ∧
      { name := "start.sh", executable := true, text := t } ∈ entries := by
  obtain ⟨_, w', run, tools⟩ := exists_generate_twoPets
  have made : (Files.makeDirectories {} ⟨"out", []⟩).1 = .ok () := by decide +kernel
  have empty := emptyBelow_makeDirectories (Files.passes_of_detours_eq_nil (by decide +kernel))
    (fun _ _ ↦ rfl) made
  obtain ⟨relation, succeeds, -⟩ := @generate_archive Unit numbering twoPets ⟨"out", []⟩
    ⟨"out.zip", []⟩ ⟨{}, ()⟩ ⟨{}, ()⟩ empty rfl
  obtain ⟨r', v', run'⟩ := succeeds ⟨_, w', run⟩ (by decide +kernel) (by decide +kernel)
  obtain ⟨-, rfl, -, found, x, there, -, mem, -⟩ := relation _ _ _ _ run run'
  obtain ⟨_, written, -⟩ := generate_eq_ok_iff.1 run
  obtain ⟨_, -, server⟩ := writeTo_directory_eq_ok.1 written
  obtain ⟨content, script⟩ := executable_of_writeServer server
  rw [Files.locate_child] at script
  have packed := List.mem_map_of_mem (f := entryOf) ((mem _ _).2 ⟨List.cons_ne_nil _ _, script⟩)
  exact ⟨_, _, w', v', _, x, _, run, run', tools, rfl, there, packed⟩

end Generator

end Toolsmith.Generation
