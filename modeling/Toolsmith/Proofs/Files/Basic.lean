import Mathlib.Data.List.Induction
import Toolsmith.Proofs.Outcome
import Toolsmith.Proofs.Path

/-!
# What operations on files do

A name can be reached when the directories that lead to it are there, and it stays so as long as
no directory goes away. No operation takes a directory away, so what was reached once is reached
ever after: that is why a file that was written can still be read after other files were. A path
leads somewhere when all of that can be reached which it leads through, on detours as well.

## Main definitions

* `Files.Reach`: every directory on the way to the end of some names is there.
* `Files.Leads`, `Files.Passes`: the same for a path, and for the detours that it makes.
* `Files.Puts`: a file was put where a path leads, and nothing else was done.
* `Files.Grows`: nothing was done but to make directories that can be reached.

## Main statements

* `Files.reach_concat`: reaching a name is reaching the directory that it is in.
* `Files.leads_descend_iff`: what leads to an entry below.
* `Files.puts_of_write`, `Files.read_of_get?`: what is written, and what is read.
* `Files.makeDirectories_spec`: the directory is there, and nothing but directories is new.
* `Files.makeFrom_append`, `Files.get?_makeFrom_beyond`: directories that are there are passed
  through, and nothing is made beyond the last one.
-/

namespace Toolsmith.Files

/-! ### Entries -/

/-- Setting a node changes what stands at its names, and nothing else. -/
theorem Entries.get?_set (entries : Entries) (names other : List String) (n : Node) :
    (entries.set names n).get? other = if names = other then some n else entries.get? other := by
  induction entries with
  | nil => rfl
  | cons e entries ih =>
    obtain ⟨k, m⟩ := e
    rw [Entries.set]
    by_cases hk : k = names
    · rw [if_pos hk, Entries.get?, Entries.get?, hk]
      split <;> rfl
    · rw [if_neg hk, Entries.get?, Entries.get?, ih]
      by_cases ho : k = other
      · rw [if_pos ho, if_pos ho, if_neg fun h ↦ hk (ho.trans h.symm)]
      · rw [if_neg ho, if_neg ho]

/-- What stands at the end of some names is one of the entries. -/
theorem Entries.mem_of_get? {entries : Entries} {names : List String} {n : Node}
    (h : entries.get? names = some n) : (names, n) ∈ entries := by
  induction entries with
  | nil => cases h
  | cons e entries ih =>
    obtain ⟨k, m⟩ := e
    rw [Entries.get?] at h
    split at h
    next hk =>
      cases h
      rw [hk]
      exact List.mem_cons_self
    next => exact List.mem_cons_of_mem _ (ih h)

/-- Something stands at the end of the names of an entry. -/
theorem Entries.get?_ne_none {entries : Entries} {e : List String × Node} (h : e ∈ entries) :
    entries.get? e.1 ≠ none := by
  induction entries with
  | nil => cases h
  | cons d entries ih =>
    obtain ⟨k, m⟩ := d
    rw [Entries.get?]
    split
    next => exact Option.some_ne_none m
    next hk =>
      refine ih ((List.mem_cons.1 h).resolve_left fun he ↦ hk ?_)
      rw [he]

variable {fs fs' : Files} {names other : List String} {n : Node}

@[simp] theorem get?_nil (fs : Files) : fs.get? [] = some .directory := rfl

@[simp] theorem workingDirectory_set (fs : Files) (names : List String) (n : Node) :
    (fs.set names n).workingDirectory = fs.workingDirectory := rfl

@[simp] theorem locate_set (fs : Files) (names : List String) (n : Node) :
    (fs.set names n).locate = fs.locate := rfl

@[simp] theorem detours_set (fs : Files) (names : List String) (n : Node) :
    (fs.set names n).detours = fs.detours := rfl

/-- Paths stand for the same names from the same working directory. -/
theorem locate_congr (h : fs'.workingDirectory = fs.workingDirectory) :
    fs'.locate = fs.locate := by
  funext p
  rw [locate, locate, h]

/-- What a path leads into and out of again depends on the working directory only. -/
theorem detours_congr (h : fs'.workingDirectory = fs.workingDirectory) :
    fs'.detours = fs.detours := by
  funext p
  rw [detours, detours, h]

/-- Below the root, setting a node changes what stands at its names, and nothing else. -/
theorem get?_set (h : names ≠ []) (other : List String) :
    (fs.set names n).get? other = if names = other then some n else fs.get? other := by
  rw [get?, get?, set, Entries.get?_set]
  split
  next ho => rw [if_neg fun he ↦ h (he.trans ho)]
  next => rfl

theorem get?_set_self (h : names ≠ []) : (fs.set names n).get? names = some n := by
  rw [get?_set h, if_pos rfl]

theorem get?_set_of_ne (h : names ≠ []) (ho : names ≠ other) :
    (fs.set names n).get? other = fs.get? other := by
  rw [get?_set h, if_neg ho]

theorem goals_congr (h : fs'.workingDirectory = fs.workingDirectory) :
    fs'.goals = fs.goals := by
  funext p
  rw [goals, goals, detours_congr h, locate_congr h]

/-! ### Reaching a name -/

/-- Every directory on the way from the root to the end of some names is there, and no name on
the way is too long. -/
def Reach (fs : Files) (names : List String) : Prop :=
  fs.reachFrom [] names = .ok ()

instance (fs : Files) (names : List String) : Decidable (fs.Reach names) :=
  inferInstanceAs (Decidable (_ = _))

theorem reach_nil (fs : Files) : fs.Reach [] := rfl

/-- One name more can be followed from a directory if the names before it lead to a directory, and
it is not too long. -/
theorem reachFrom_concat (fs : Files) (passed names : List String) (name : String)
    (start : fs.get? passed = some .directory) :
    fs.reachFrom passed (names ++ [name]) = .ok () ↔
      fs.reachFrom passed names = .ok () ∧ fs.get? (passed ++ names) = some .directory ∧
        isTooLong name = false := by
  -- All names but the last one have to lead to directories; the last one has to be short only.
  induction names generalizing passed with
  | nil =>
    rw [List.nil_append, List.append_nil, reachFrom, reachFrom]
    cases isTooLong name <;> simp [start]
  | cons first names ih =>
    have next : names ++ [name] ≠ [] := by simp
    rw [List.cons_append, reachFrom.eq_def]
    cases hl : isTooLong first with
    | true => cases names <;> simp [reachFrom, hl]
    | false =>
      cases hg : fs.get? (passed ++ [first]) with
      | none => cases names <;> simp [reachFrom, hl, hg]
      | some m =>
        cases m with
        | file c x => cases names <;> simp [reachFrom, hl, hg]
        | directory =>
          have step := ih (passed ++ [first]) hg
          rw [List.append_assoc, List.singleton_append] at step
          cases names <;> simp_all [reachFrom]

/-- A name is reached when the directory that it is in is there and reached. -/
theorem reach_concat (name : String) : fs.Reach (names ++ [name]) ↔
    fs.Reach names ∧ fs.get? names = some .directory ∧ isTooLong name = false :=
  reachFrom_concat fs [] names name rfl

/-- Whatever stands above a reached name is a directory. -/
theorem Reach.directory {name : String} {rest : List String}
    (h : fs.Reach (names ++ name :: rest)) : fs.get? names = some .directory := by
  induction rest using List.reverseRecOn with
  | nil => exact ((reach_concat name).1 h).2.1
  | append_singleton rest last ih =>
    rw [← List.cons_append, ← List.append_assoc] at h
    exact ih ((reach_concat last).1 h).1

/-- Whatever stands above a reached name is reached. -/
theorem Reach.of_append {rest : List String} (h : fs.Reach (names ++ rest)) : fs.Reach names := by
  induction rest using List.reverseRecOn with
  | nil => rwa [List.append_nil] at h
  | append_singleton rest last ih =>
    rw [← List.append_assoc] at h
    exact ih ((reach_concat last).1 h).1

/-- A name stays reached as long as directories stay. -/
theorem Reach.mono (kept : ∀ other, fs.get? other = some .directory →
    fs'.get? other = some .directory) (h : fs.Reach names) : fs'.Reach names := by
  induction names using List.reverseRecOn with
  | nil => exact reach_nil fs'
  | append_singleton names name ih =>
    obtain ⟨above, directory, short⟩ := (reach_concat name).1 h
    exact (reach_concat name).2 ⟨ih above, kept names directory, short⟩

/-! ### Paths that lead somewhere -/

/-- Every directory that a path leads into and out of again is there. -/
def Passes (fs : Files) (p : Path) : Prop :=
  ∀ names ∈ fs.detours p, fs.Reach (names ++ [".."])

/-- Every directory on the way of a path is there, so that the path leads somewhere. Something may
stand there or not. -/
def Leads (fs : Files) (p : Path) : Prop :=
  fs.reach p = .ok ()

instance (fs : Files) (p : Path) : Decidable (fs.Leads p) :=
  inferInstanceAs (Decidable (_ = _))

variable {p : Path}

/-- A path leads somewhere if the directories are there that it passes, and the names that it stands
for can be followed. -/
theorem leads_iff : fs.Leads p ↔ fs.Passes p ∧ fs.Reach (fs.locate p) := by
  rw [Leads, reach, check_bind_eq_ok, forM_eq_ok]
  rfl

theorem Leads.passes (h : fs.Leads p) : fs.Passes p := (leads_iff.1 h).1

theorem Leads.reach (h : fs.Leads p) : fs.Reach (fs.locate p) := (leads_iff.1 h).2

/-- A path without detours passes. -/
theorem passes_of_detours_eq_nil (h : fs.detours p = []) : fs.Passes p := by
  intro names hn
  rw [h] at hn
  exact absurd hn List.not_mem_nil

/-- To go up from a directory it has to be there. -/
theorem reach_dots : fs.Reach (names ++ [".."]) ↔
    fs.Reach names ∧ fs.get? names = some .directory := by
  have short : isTooLong ".." = false := by decide
  rw [reach_concat, short]
  exact ⟨fun ⟨above, directory, _⟩ ↦ ⟨above, directory⟩, fun ⟨above, directory⟩ ↦
    ⟨above, directory, rfl⟩⟩

/-- Nobody goes up below a path. -/
@[simp] theorem passes_descend_iff : fs.Passes (p.descend names) ↔ fs.Passes p := Iff.rfl

/-- What leads to an entry below a path. -/
theorem leads_descend_iff :
    fs.Leads (p.descend names) ↔ fs.Passes p ∧ fs.Reach (fs.locate p ++ names) := by
  rw [leads_iff, passes_descend_iff, locate_descend]

/-- The path of an entry leads somewhere if that of its directory leads to a directory, and its name
is not too long. -/
theorem leads_child_iff {name : String} : fs.Leads (p.child name) ↔
    fs.Leads p ∧ fs.get? (fs.locate p) = some .directory ∧ isTooLong name = false := by
  rw [Path.child_eq_descend, leads_descend_iff, reach_concat, leads_iff, and_assoc]

/-- A path passes the same directories as long as none goes away. -/
theorem Passes.mono (here : fs'.workingDirectory = fs.workingDirectory)
    (kept : ∀ other, fs.get? other = some .directory → fs'.get? other = some .directory)
    (h : fs.Passes p) : fs'.Passes p := by
  intro names hn
  rw [detours_congr here] at hn
  exact (h names hn).mono kept

/-- A path leads somewhere as long as directories stay. -/
theorem Leads.mono (here : fs'.workingDirectory = fs.workingDirectory)
    (kept : ∀ other, fs.get? other = some .directory → fs'.get? other = some .directory)
    (h : fs.Leads p) : fs'.Leads p := by
  refine leads_iff.2 ⟨h.passes.mono here kept, ?_⟩
  rw [locate_congr here]
  exact h.reach.mono kept

/-! ### Reading and writing -/

/-- A node is found where a path leads to it. -/
theorem lookup_of_get? (leads : fs.Leads p) (h : fs.get? (fs.locate p) = some n) :
    fs.lookup p = .ok n := by
  have reached : fs.reach p = .ok () := leads
  simp only [lookup, reached, h, bind, Except.bind]

/-- A node that is found stands where the path leads. -/
theorem get?_of_lookup (h : fs.lookup p = .ok n) :
    fs.Leads p ∧ fs.get? (fs.locate p) = some n := by
  obtain ⟨leads, found⟩ := check_bind_eq_ok.1 h
  refine ⟨leads, ?_⟩
  cases hg : fs.get? (fs.locate p) with
  | none =>
    rw [hg] at found
    cases found
  | some m =>
    rw [hg] at found
    exact congrArg some (Except.ok.inj found)

/-- A text file that a path leads to is read. -/
theorem read_of_get? {text : String} {x : Bool} (leads : fs.Leads p)
    (h : fs.get? (fs.locate p) = some (.file (.text text) x)) : fs.read p = .ok text := by
  simp only [read, lookup_of_get? leads h, bind, Except.bind]

/-- A file was put where a path leads, and nothing else was done. What later operations meet does
not matter. -/
structure Puts (fs fs' : Files) (p : Path) (content : Content) : Prop where
  /-- The path leads somewhere. -/
  leads : fs.Leads p
  /-- There was no directory. -/
  free : fs.get? (fs.locate p) ≠ some .directory
  /-- The file is put there. -/
  put : ∃ x faults, fs' = { fs.set (fs.locate p) (.file content x) with faults }

namespace Puts

variable {content : Content}

theorem ne_nil (h : fs.Puts fs' p content) : fs.locate p ≠ [] := by
  intro root
  have free := h.free
  rw [root] at free
  exact free (get?_nil fs)

theorem here (h : fs.Puts fs' p content) : fs'.workingDirectory = fs.workingDirectory := by
  obtain ⟨x, faults, rfl⟩ := h.put
  rfl

theorem locate_eq (h : fs.Puts fs' p content) : fs'.locate = fs.locate :=
  locate_congr h.here

/-- The file is there. -/
theorem get?_self (h : fs.Puts fs' p content) :
    ∃ x, fs'.get? (fs.locate p) = some (.file content x) := by
  obtain ⟨x, faults, rfl⟩ := h.put
  exact ⟨x, get?_set_self h.ne_nil⟩

/-- Nothing else is different. -/
theorem get?_of_ne (h : fs.Puts fs' p content) (ho : fs.locate p ≠ other) :
    fs'.get? other = fs.get? other := by
  obtain ⟨x, faults, rfl⟩ := h.put
  exact get?_set_of_ne h.ne_nil ho

/-- A directory stays one. -/
theorem directory (h : fs.Puts fs' p content) (hd : fs.get? other = some .directory) :
    fs'.get? other = some .directory := by
  rw [h.get?_of_ne, hd]
  rintro rfl
  exact h.free hd

theorem reach_mono (h : fs.Puts fs' p content) (hr : fs.Reach other) : fs'.Reach other :=
  hr.mono fun _ ↦ h.directory

/-- A path leads on where it led. -/
theorem leads_mono {q : Path} (h : fs.Puts fs' p content) (hl : fs.Leads q) : fs'.Leads q :=
  hl.mono h.here fun _ ↦ h.directory

/-- The file is at its place, where the path still leads. -/
theorem placed (h : fs.Puts fs' p content) :
    fs'.Leads p ∧ ∃ x, fs'.get? (fs'.locate p) = some (.file content x) := by
  rw [h.locate_eq]
  exact ⟨h.leads_mono h.leads, h.get?_self⟩

/-- No directory is new. -/
theorem ne_directory (h : fs.Puts fs' p content) (hd : fs.get? other ≠ some .directory) :
    fs'.get? other ≠ some .directory := by
  by_cases he : fs.locate p = other
  · obtain ⟨x, there⟩ := h.get?_self
    rw [← he, there]
    simp
  · rwa [h.get?_of_ne he]

end Puts

/-- What is written is put where the path leads. -/
theorem puts_of_write {content : Content} (h : fs.write p content = .ok fs') :
    fs.Puts fs' p content := by
  obtain ⟨leads, written⟩ := check_bind_eq_ok.1 h
  cases hg : fs.get? (fs.locate p) with
  | none =>
    rw [hg] at written
    exact ⟨leads, by rw [hg]; simp, false, fs.faults, (Except.ok.inj written).symm⟩
  | some m =>
    rw [hg] at written
    cases m with
    | directory => cases written
    | file c x => exact ⟨leads, by rw [hg]; simp, x, fs.faults, (Except.ok.inj written).symm⟩

/-- A file is written where its path leads, unless there is a directory. -/
theorem write_of_leads (leads : fs.Leads p) (free : fs.get? (fs.locate p) ≠ some .directory)
    (content : Content) : ∃ fs', fs.write p content = .ok fs' := by
  have reached : fs.reach p = .ok () := leads
  simp only [write, reached, bind, Except.bind]
  cases hg : fs.get? (fs.locate p) with
  | none => exact ⟨_, rfl⟩
  | some m =>
    cases m with
    | directory => exact absurd hg free
    | file c x => exact ⟨_, rfl⟩

/-- A file that is made executable is put where it is. -/
theorem puts_of_makeExecutable (h : fs.makeExecutable p = .ok fs') :
    fs' = fs ∨ ∃ content, fs.Puts fs' p content := by
  obtain ⟨m, hl, made⟩ := bind_eq_ok.1 h
  obtain ⟨leads, hg⟩ := get?_of_lookup hl
  cases m with
  | directory => exact .inl (Except.ok.inj made).symm
  | file content x =>
    exact .inr ⟨content, leads, by rw [hg]; simp, true, fs.faults, (Except.ok.inj made).symm⟩

/-- What stands where a path leads can be made executable. -/
theorem makeExecutable_of_get? (leads : fs.Leads p) (h : fs.get? (fs.locate p) = some n) :
    ∃ fs', fs.makeExecutable p = .ok fs' := by
  simp only [makeExecutable, lookup_of_get? leads h, bind, Except.bind]
  cases n with
  | directory => exact ⟨_, rfl⟩
  | file c x => exact ⟨_, rfl⟩

/-! ### Making directories -/

/-- Nothing was done but to make directories that can be reached. -/
structure Grows (fs fs' : Files) : Prop where
  /-- Paths lead where they led. -/
  here : fs'.workingDirectory = fs.workingDirectory
  /-- What was there is there. -/
  kept : ∀ {names n}, fs.get? names = some n → fs'.get? names = some n
  /-- What is new is a directory that can be reached. -/
  new : ∀ {names n}, fs.get? names = none → fs'.get? names = some n →
    n = .directory ∧ fs'.Reach names

namespace Grows

theorem refl (fs : Files) : fs.Grows fs :=
  ⟨rfl, id, fun h h' ↦ by rw [h] at h'; cases h'⟩

theorem locate_eq (h : fs.Grows fs') : fs'.locate = fs.locate :=
  locate_congr h.here

theorem reach_mono (h : fs.Grows fs') (hr : fs.Reach names) : fs'.Reach names :=
  hr.mono fun _ ↦ h.kept

theorem passes_mono (h : fs.Grows fs') (hp : fs.Passes p) : fs'.Passes p :=
  hp.mono h.here fun _ ↦ h.kept

theorem leads_mono (h : fs.Grows fs') (hl : fs.Leads p) : fs'.Leads p :=
  hl.mono h.here fun _ ↦ h.kept

/-- New directories may come in several steps. -/
theorem trans {fs'' : Files} (h : fs.Grows fs') (h' : fs'.Grows fs'') : fs.Grows fs'' where
  here := h'.here.trans h.here
  kept hg := h'.kept (h.kept hg)
  new {names n} hn hg := by
    cases hm : fs'.get? names with
    | none => exact h'.new hm hg
    | some m =>
      obtain ⟨rfl, reach⟩ := h.new hn hm
      rw [h'.kept hm] at hg
      exact ⟨(Option.some.inj hg).symm, h'.reach_mono reach⟩

/-- A file that is there was there before. -/
theorem file (h : fs.Grows fs') {content : Content} {x : Bool}
    (hg : fs'.get? names = some (.file content x)) :
    fs.get? names = some (.file content x) := by
  cases hm : fs.get? names with
  | none => cases (h.new hm hg).1
  | some m => rw [← h.kept hm, hg]

end Grows

/-- A directory that is made in another one is new, and nothing else is. -/
theorem grows_set_directory {name : String} (above : fs.Reach names)
    (directory : fs.get? names = some .directory) (short : isTooLong name = false)
    (free : fs.get? (names ++ [name]) = none) :
    fs.Grows (fs.set (names ++ [name]) .directory) := by
  have ne : names ++ [name] ≠ [] := by simp
  -- What was there before stood elsewhere, as nothing stood at the name.
  have kept {other m} (h : fs.get? other = some m) :
      (fs.set (names ++ [name]) .directory).get? other = some m := by
    rw [get?_set_of_ne ne, h]
    rintro rfl
    rw [free] at h
    cases h
  refine ⟨rfl, kept, fun {other m} hn hg ↦ ?_⟩
  rw [get?_set ne] at hg
  split at hg
  next he =>
    subst he
    refine ⟨(Option.some.inj hg).symm, ?_⟩
    exact ((reach_concat name).2 ⟨above, directory, short⟩).mono fun _ ↦ kept
  next =>
    rw [hn] at hg
    cases hg

/-- Where directories could be made on the way along some names, they are there, and nothing else is
new. -/
theorem makeFrom_spec {passed : List String} (above : fs.Reach passed)
    (directory : fs.get? passed = some .directory) (h : (fs.makeFrom passed names).1 = .ok ()) :
    fs.Grows (fs.makeFrom passed names).2 ∧
      (fs.makeFrom passed names).2.Reach (passed ++ names) ∧
      (fs.makeFrom passed names).2.get? (passed ++ names) = some .directory := by
  induction names generalizing fs passed with
  | nil =>
    rw [makeFrom, List.append_nil]
    exact ⟨.refl fs, above, directory⟩
  | cons name names ih =>
    rw [List.append_cons]
    rw [makeFrom] at h ⊢
    cases hl : isTooLong name with
    | true => simp [hl] at h
    | false =>
      have reach : fs.Reach (passed ++ [name]) := (reach_concat name).2 ⟨above, directory, hl⟩
      simp only [hl, Bool.false_eq_true, if_false] at h ⊢
      cases hg : fs.get? (passed ++ [name]) with
      | none =>
        -- The directory is made, and it is the one that the rest starts from.
        simp only [hg] at h ⊢
        have step := grows_set_directory above directory hl hg
        obtain ⟨grows, rest⟩ := ih (step.reach_mono reach) (get?_set_self (by simp)) h
        exact ⟨step.trans grows, rest⟩
      | some m =>
        cases m with
        | file content x => simp [hg] at h
        | directory =>
          simp only [hg] at h ⊢
          exact ih reach hg h

/-- Directories are made for the goals one after the other. -/
theorem makeAll_append (goals more : List (List String)) :
    fs.makeAll (goals ++ more) = match fs.makeAll goals with
      | (.ok (), fs') => fs'.makeAll more
      | (.error e, fs') => (.error e, fs') := by
  induction goals generalizing fs with
  | nil => rfl
  | cons names goals ih =>
    rw [List.cons_append, makeAll, makeAll]
    rcases fs.makeFrom [] names with ⟨e | ⟨⟨⟩⟩, fs₁⟩
    · rfl
    · exact ih

/-- Directories that were all made are there and can be reached, and nothing else is new but
directories. -/
theorem makeAll_spec {goals : List (List String)} (h : (fs.makeAll goals).1 = .ok ()) :
    fs.Grows (fs.makeAll goals).2 ∧ ∀ names ∈ goals, (fs.makeAll goals).2.Reach names ∧
      (fs.makeAll goals).2.get? names = some .directory := by
  induction goals generalizing fs with
  | nil => exact ⟨.refl fs, fun _ hn ↦ absurd hn List.not_mem_nil⟩
  | cons names goals ih =>
    have once := @makeFrom_spec fs names [] (reach_nil fs) (get?_nil fs)
    rw [makeAll] at h ⊢
    rcases made : fs.makeFrom [] names with ⟨e | ⟨⟨⟩⟩, fs₁⟩ <;> rw [made] at h once
    · cases h
    · obtain ⟨grows, reach, there⟩ := once rfl
      obtain ⟨more, rest⟩ := ih h
      exact ⟨grows.trans more,
        List.forall_mem_cons.2 ⟨⟨more.reach_mono reach, more.kept there⟩, rest⟩⟩

theorem fst_makeDirectories_eq_ok :
    (fs.makeDirectories p).1 = .ok () ↔ (fs.makeAll (fs.goals p)).1 = .ok () :=
  mapError_eq_ok

theorem snd_makeDirectories (fs : Files) (p : Path) :
    (fs.makeDirectories p).2 = (fs.makeAll (fs.goals p)).2 := rfl

/-- The directory that was made is there, and its path leads there. Nothing else is new but
directories. -/
theorem makeDirectories_spec (h : (fs.makeDirectories p).1 = .ok ()) :
    fs.Grows (fs.makeDirectories p).2 ∧ (fs.makeDirectories p).2.Leads p ∧
      (fs.makeDirectories p).2.get? (fs.locate p) = some .directory := by
  obtain ⟨grows, made⟩ := makeAll_spec (fst_makeDirectories_eq_ok.1 h)
  obtain ⟨detours, last⟩ := List.forall_mem_append.1 made
  obtain ⟨reach, there⟩ := last _ List.mem_cons_self
  rw [snd_makeDirectories]
  refine ⟨grows, leads_iff.2 ⟨fun names hn ↦ reach_dots.2 (detours names ?_), ?_⟩, there⟩
  · rwa [detours_congr grows.here] at hn
  · rw [grows.locate_eq]
    exact reach

/-- Nothing is made beyond the last of the names. -/
theorem get?_makeFrom_beyond (passed names : List String) (name : String) (rest : List String) :
    (fs.makeFrom passed names).2.get? (passed ++ (names ++ name :: rest)) =
      fs.get? (passed ++ (names ++ name :: rest)) := by
  induction names generalizing fs passed with
  | nil => rfl
  | cons first names ih =>
    rw [List.cons_append, List.append_cons]
    rw [makeFrom]
    split
    · rfl
    · split
      · exact ih (passed ++ [first])
      · rfl
      · rw [ih, get?_set_of_ne (by simp)]
        simp

/-- Directories that are there are passed through. -/
theorem makeFrom_append {passed : List String} (reach : fs.Reach (passed ++ names))
    (there : fs.get? (passed ++ names) = some .directory) (rest : List String) :
    fs.makeFrom passed (names ++ rest) = fs.makeFrom (passed ++ names) rest := by
  induction names generalizing passed with
  | nil => rw [List.nil_append, List.append_nil]
  | cons name names ih =>
    rw [List.append_cons] at reach there ⊢
    obtain ⟨-, -, short⟩ := (reach_concat name).1 reach.of_append
    have directory : fs.get? (passed ++ [name]) = some .directory := by
      cases names with
      | nil => rwa [List.append_nil] at there
      | cons next names => exact reach.directory
    rw [List.cons_append, makeFrom, short, directory]
    exact ih reach there

/-- Names that lead through a directory go on from there. -/
theorem makeFrom_root_append (reach : fs.Reach names) (there : fs.get? names = some .directory)
    (rest : List String) : fs.makeFrom [] (names ++ rest) = fs.makeFrom names rest :=
  @makeFrom_append fs names [] reach there rest

/-- Directories that are there are all passed through. -/
theorem makeAll_of_reach {goals : List (List String)}
    (h : ∀ names ∈ goals, fs.Reach names ∧ fs.get? names = some .directory) :
    fs.makeAll goals = (.ok (), fs) := by
  induction goals with
  | nil => rfl
  | cons names goals ih =>
    obtain ⟨⟨reach, there⟩, rest⟩ := List.forall_mem_cons.1 h
    have passed := makeFrom_root_append reach there []
    rw [List.append_nil] at passed
    rw [makeAll, passed]
    exact ih rest

/-- Where a path passes, only the directories of its last goal may have to be made. -/
theorem makeAll_goals (passes : fs.Passes p) :
    fs.makeAll (fs.goals p) = fs.makeFrom [] (fs.locate p) := by
  rw [goals, makeAll_append, makeAll_of_reach fun names hn ↦ reach_dots.1 (passes names hn)]
  simp only [makeAll]
  rcases fs.makeFrom [] (fs.locate p) with ⟨e | ⟨⟨⟩⟩, fs₁⟩ <;> rfl

/-- Making a directory that is there changes nothing. -/
theorem makeDirectories_of_leads (leads : fs.Leads p)
    (there : fs.get? (fs.locate p) = some .directory) : fs.makeDirectories p = (.ok (), fs) := by
  have passed := makeFrom_root_append leads.reach there []
  rw [List.append_nil] at passed
  rw [makeDirectories, makeAll_goals leads.passes, passed]
  rfl

end Toolsmith.Files
