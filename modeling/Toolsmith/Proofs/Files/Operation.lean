import Toolsmith.Proofs.Files.Basic

/-!
# Operations done one after the other

A list of operations is done up to the first one that fails; what was done until then stays, and so
does what the last one did before it failed. What operations changed is known from their places:
nothing is different elsewhere. Where they all succeeded, nothing happened to any of them, and they
would have done the same if nothing could have happened.

## Main definitions

* `Files.withFaults`, `Files.mended`: the same files, where other things happen to operations, or
  nothing.
* `Files.performAll`: what operations do one after the other.
* `Files.Operation.Touches`: nothing is different but what an operation is for.

## Main statements

* `Files.Operation.apply_eq_ok`, `Files.Operation.apply_write_eq_error`: what an operation did that
  succeeded, and a writing one that failed.
* `Files.performAll_append`: operations done after others.
* `Files.performAll_mended`: operations that succeeded where something could have happened.
* `Files.performAll_induction`: what every operation keeps.
* `Files.get?_performAll`: what operations change, also where one of them fails.
-/

namespace Toolsmith.Files

variable {fs fs' fs₁ : Files} {op : Operation} {ops : List Operation} {names other : List String}

/-! ### What operations meet -/

/-- The same files, where something else happens to operations. -/
def withFaults (fs : Files) (faults : List (Option Fault)) : Files :=
  { fs with faults }

/-- The same files, where nothing happens to any operation. -/
def mended (fs : Files) : Files :=
  fs.withFaults []

section WithFaults

variable (fs : Files) (faults : List (Option Fault))

theorem next_eq_withFaults : fs.next = fs.withFaults fs.faults.tail := rfl

@[simp] theorem get?_withFaults : (fs.withFaults faults).get? = fs.get? := rfl

@[simp] theorem locate_withFaults : (fs.withFaults faults).locate = fs.locate := rfl

@[simp] theorem detours_withFaults : (fs.withFaults faults).detours = fs.detours := rfl

@[simp] theorem withFaults_withFaults (more : List (Option Fault)) :
    (fs.withFaults faults).withFaults more = fs.withFaults more := rfl

@[simp] theorem fault?_mended : fs.mended.fault? = none := rfl

@[simp] theorem next_mended : fs.mended.next = fs.mended := rfl

/-- What happens to operations does not change where names lead. -/
theorem reachFrom_withFaults (passed names : List String) :
    (fs.withFaults faults).reachFrom passed names = fs.reachFrom passed names := by
  induction names generalizing passed with
  | nil => rfl
  | cons name names ih =>
    cases names with
    | nil => rfl
    | cons next names => simp only [reachFrom, ih, get?_withFaults]

@[simp] theorem reach_withFaults (names : List String) :
    (fs.withFaults faults).Reach names ↔ fs.Reach names := by
  rw [Reach, Reach, reachFrom_withFaults]

/-- Whether a path leads somewhere has nothing to do with what happens to operations. -/
@[simp] theorem reach_path_withFaults (p : Path) : (fs.withFaults faults).reach p = fs.reach p := by
  simp only [reach, detours_withFaults, locate_withFaults, reachFrom_withFaults]

@[simp] theorem leads_withFaults (p : Path) : (fs.withFaults faults).Leads p ↔ fs.Leads p := by
  rw [Leads, Leads, reach_path_withFaults]

@[simp] theorem lookup_withFaults (p : Path) :
    (fs.withFaults faults).lookup p = fs.lookup p := by
  simp only [lookup, reach_path_withFaults, locate_withFaults, get?_withFaults]

/-- What happens to later operations does not change what writing a file does by itself. -/
theorem write_withFaults (p : Path) (content : Content) :
    (fs.withFaults faults).write p content =
      (fs.write p content).map fun fs ↦ fs.withFaults faults := by
  simp only [write, reach_path_withFaults, locate_withFaults, get?_withFaults]
  cases fs.reach p with
  | error e => rfl
  | ok reached => rcases fs.get? (fs.locate p) with _ | _ | _ <;> rfl

theorem makeExecutable_withFaults (p : Path) :
    (fs.withFaults faults).makeExecutable p =
      (fs.makeExecutable p).map fun fs ↦ fs.withFaults faults := by
  simp only [makeExecutable, lookup_withFaults]
  rcases fs.lookup p with _ | _ | _ <;> rfl

theorem orElse_withFaults (outcome : Except OsError Files) :
    (fs.withFaults faults).orElse (outcome.map fun fs ↦ fs.withFaults faults) =
      (fs.orElse outcome).map id fun fs ↦ fs.withFaults faults := by
  cases outcome <;> rfl

theorem makeFrom_withFaults (passed names : List String) :
    (fs.withFaults faults).makeFrom passed names =
      (fs.makeFrom passed names).map id fun fs ↦ fs.withFaults faults := by
  induction names generalizing fs passed with
  | nil => rfl
  | cons name names ih =>
    rw [makeFrom, makeFrom, get?_withFaults]
    split
    · rfl
    · split
      · exact ih fs _
      · rfl
      · exact ih (fs.set (passed ++ [name]) .directory) _

/-- Nor does it change which directories are made. -/
theorem makeAll_withFaults (goals : List (List String)) :
    (fs.withFaults faults).makeAll goals =
      (fs.makeAll goals).map id fun fs ↦ fs.withFaults faults := by
  induction goals generalizing fs with
  | nil => rfl
  | cons names goals ih =>
    rw [makeAll, makeAll, makeFrom_withFaults]
    rcases fs.makeFrom [] names with ⟨e | ⟨⟨⟩⟩, fs₁⟩
    · rfl
    · exact ih fs₁

theorem makeDirectories_withFaults (p : Path) :
    (fs.withFaults faults).makeDirectories p =
      (fs.makeDirectories p).map id fun fs ↦ fs.withFaults faults := by
  have goals : (fs.withFaults faults).goals p = fs.goals p := rfl
  have refusal : (fs.withFaults faults).refusal p = fs.refusal p := by
    funext e
    rw [Files.refusal, Files.refusal, reach_path_withFaults]
  rw [makeDirectories, makeDirectories, goals, refusal, makeAll_withFaults]
  rfl

/-- What an operation does by itself does not depend on what happens to later ones. -/
theorem Operation.whole_withFaults (op : Operation) :
    op.whole (fs.withFaults faults) =
      (op.whole fs).map id fun fs ↦ fs.withFaults faults := by
  cases op with
  | makeDirectories p => exact fs.makeDirectories_withFaults faults p
  | write p content => rw [whole, whole, write_withFaults, orElse_withFaults]
  | makeExecutable p => rw [whole, whole, makeExecutable_withFaults, orElse_withFaults]

end WithFaults

/-! ### Single operations -/

theorem orElse_eq_ok {outcome : Except OsError Files} (h : fs.orElse outcome = (.ok (), fs')) :
    outcome = .ok fs' := by
  cases outcome <;> cases h
  rfl

namespace Operation

/-- An operation that succeeded met nothing, and did what it does by itself. What may happen next
is left to the operations after it. -/
theorem apply_eq_ok : op.apply fs = (.ok (), fs') ↔ fs.fault? = none ∧
    ∃ fs₁, op.whole fs = (.ok (), fs₁) ∧ fs' = fs₁.withFaults fs.faults.tail := by
  rw [apply]
  cases fs.fault? with
  | none =>
    rw [next_eq_withFaults, and_iff_right rfl]
    simp only [whole_withFaults]
    rcases op.whole fs with ⟨outcome, fs₁⟩
    simp only [Prod.map, id, Prod.mk.injEq]
    exact ⟨fun ⟨done, left⟩ ↦ ⟨fs₁, ⟨done, rfl⟩, left.symm⟩,
      fun ⟨_, ⟨done, same⟩, left⟩ ↦ ⟨done, by rw [left, same]⟩⟩
  | some fault =>
    refine iff_of_false ?_ fun h ↦ (nomatch h.1)
    rcases cut : op.part fs.next fault.done with ⟨e | ⟨⟨⟩⟩, fs₁⟩ <;> simp [cut]

/-- An operation that meets something fails. -/
theorem apply_eq_error_of_fault (op : Operation) {fault : Fault} (meets : fs.fault? = some fault) :
    ∃ e, (op.apply fs).1 = .error e := by
  rw [apply, meets]
  rcases cut : op.part fs.next fault.done with ⟨e | ⟨⟨⟩⟩, fs'⟩
  · exact ⟨e, by simp only [cut]⟩
  · exact ⟨fault.reason, by simp only [cut]⟩

/-- An operation that meets something fails for the reason of that, after it has done a part. -/
theorem apply_eq_error_of_part {fault : Fault} (meets : fs.fault? = some fault)
    (cut : op.part fs.next fault.done = (.ok (), fs₁)) :
    op.apply fs = (.error fault.reason, fs₁) := by
  rw [apply, meets]
  simp only [cut]

/-- Where nothing happens, an operation does what it does by itself. -/
theorem apply_of_whole (healthy : fs.faults = []) (h : op.whole fs = (.ok (), fs₁)) :
    op.apply fs = (.ok (), fs₁.mended) := by
  refine apply_eq_ok.2 ⟨?_, fs₁, h, ?_⟩
  · rw [fault?, healthy]
    rfl
  · rw [healthy]
    rfl

/-- A file is written where its path leads, unless there is a directory or something happens. -/
theorem exists_apply_write (healthy : fs.faults = []) {p : Path} (leads : fs.Leads p)
    (free : fs.get? (fs.locate p) ≠ some .directory) (content : Content) :
    ∃ fs', (write p content).apply fs = (.ok (), fs') ∧ fs'.faults = [] := by
  obtain ⟨fs', written⟩ := write_of_leads leads free content
  have whole : Operation.whole fs (.write p content) = (.ok (), fs') := by
    rw [Operation.whole, written]
    rfl
  exact ⟨fs'.mended, apply_of_whole healthy whole, rfl⟩

/-- What an operation does by itself it does where nothing can happen. -/
theorem apply_mended_of_whole (h : op.whole fs = (.ok (), fs₁)) :
    op.apply fs.mended = (.ok (), fs₁.mended) := by
  have mended : op.whole fs.mended = (.ok (), fs₁.mended) := by
    rw [Files.mended, whole_withFaults, h]
    rfl
  have once := apply_of_whole (rfl : fs.mended.faults = []) mended
  exact once

/-- An operation that succeeded does the same where nothing can happen. -/
theorem apply_mended (h : op.apply fs = (.ok (), fs')) :
    op.apply fs.mended = (.ok (), fs'.mended) := by
  obtain ⟨-, fs₁, whole, rfl⟩ := apply_eq_ok.1 h
  have mended : (fs₁.withFaults fs.faults.tail).mended = fs₁.mended := rfl
  rw [mended, apply_mended_of_whole whole]

/-- A directory that was made is there, and nothing but directories is new. -/
theorem grows_of_apply {p : Path} (h : (makeDirectories p).apply fs = (.ok (), fs')) :
    fs.Grows fs' ∧ fs'.Leads p ∧ fs'.get? (fs.locate p) = some .directory := by
  obtain ⟨-, fs₁, whole, rfl⟩ := apply_eq_ok.1 h
  have made : fs.makeDirectories p = (.ok (), fs₁) := whole
  have spec := makeDirectories_spec (congrArg Prod.fst made)
  rw [made] at spec
  obtain ⟨grows, leads, there⟩ := spec
  refine ⟨⟨grows.here, grows.kept, fun none found ↦ ?_⟩, (leads_withFaults ..).2 leads, there⟩
  exact (grows.new none found).imp_right (reach_withFaults ..).2

/-- A file that was written is there. -/
theorem puts_of_apply {p : Path} {content : Content}
    (h : (write p content).apply fs = (.ok (), fs')) : fs.Puts fs' p content := by
  obtain ⟨-, fs₁, whole, rfl⟩ := apply_eq_ok.1 h
  obtain ⟨leads, free, x, _, rfl⟩ := puts_of_write (orElse_eq_ok whole)
  exact ⟨leads, free, x, _, rfl⟩

/-- A file that was made executable was put where it is, or it is a directory. -/
theorem puts_of_apply_makeExecutable {p : Path}
    (h : (makeExecutable p).apply fs = (.ok (), fs')) :
    (∃ faults, fs' = fs.withFaults faults) ∨ ∃ content, fs.Puts fs' p content := by
  obtain ⟨-, fs₁, whole, rfl⟩ := apply_eq_ok.1 h
  rcases puts_of_makeExecutable (orElse_eq_ok whole) with rfl | ⟨content, leads, free, x, _, rfl⟩
  · exact .inl ⟨_, rfl⟩
  · exact .inr ⟨content, leads, free, x, _, rfl⟩

/-- A file that was made executable can be executed, and holds what it held. -/
theorem marked_of_apply {p : Path} {content : Content} {x : Bool}
    (h : (makeExecutable p).apply fs = (.ok (), fs'))
    (there : fs.get? (fs.locate p) = some (.file content x)) :
    fs.Puts fs' p content ∧ fs'.get? (fs'.locate p) = some (.file content true) := by
  obtain ⟨-, fs₁, whole, rfl⟩ := apply_eq_ok.1 h
  obtain ⟨m, found, made⟩ := bind_eq_ok.1 (orElse_eq_ok whole)
  obtain ⟨leads, hg⟩ := get?_of_lookup found
  cases there.symm.trans hg
  cases made
  have put : fs.Puts ((fs.set (fs.locate p) (.file content true)).withFaults fs.faults.tail) p
      content := ⟨leads, by rw [hg]; simp, true, _, rfl⟩
  exact ⟨put, get?_set_self put.ne_nil⟩

/-- Where a file could not be written, nothing was done, or the beginning of it was written. -/
theorem apply_write_eq_error {p : Path} {content : Content} {e : OsError}
    (h : (write p content).apply fs = (.error e, fs')) :
    (∃ faults, fs' = fs.withFaults faults) ∨ ∃ n, fs.Puts fs' p (content.take n) := by
  rw [apply] at h
  split at h
  next =>
    -- It met nothing, so its path is to blame.
    have whole : fs.next.orElse (fs.next.write p content) = (.error e, fs') := h
    rcases written : fs.next.write p content with d | fs₁ <;> rw [written] at whole
    · exact .inl ⟨_, (Prod.mk.inj whole).2.symm⟩
    · exact nomatch whole
  next fault _ =>
    rcases cut : fault.done with _ | n <;> rw [cut] at h
    · exact .inl ⟨_, (Prod.mk.inj h).2.symm⟩
    · rcases written : fs.next.write p (content.take n) with d | fs₁ <;>
        simp only [part, written, orElse] at h
      · exact .inl ⟨_, (Prod.mk.inj h).2.symm⟩
      · obtain rfl := (Prod.mk.inj h).2
        obtain ⟨leads, free, put⟩ := puts_of_write written
        exact .inr ⟨n, (leads_withFaults ..).1 leads, free, put⟩

/-- Something may happen to the writing of a file that would succeed, when the beginning of it has
been written. -/
theorem exists_apply_write_eq_error {p : Path} {content : Content}
    (h : (write p content).apply fs = (.ok (), fs')) (reason : OsError) (n : Nat) :
    ∃ files, (write p content).apply (fs.withFaults [some { reason, done := some n }]) =
      (.error reason, files) ∧ fs.Puts files p (content.take n) := by
  obtain ⟨leads, free, -⟩ := puts_of_apply h
  have leads' : fs.mended.Leads p := (leads_withFaults ..).2 leads
  obtain ⟨files, written⟩ := write_of_leads leads' free (content.take n)
  obtain ⟨-, -, put⟩ := puts_of_write written
  let fault : Fault := { reason, done := some n }
  have cut : (write p content).part (fs.withFaults [some fault]).next fault.done =
      (.ok (), files) := by
    show fs.mended.orElse (fs.mended.write p (content.take n)) = _
    rw [written]
    rfl
  exact ⟨files, apply_eq_error_of_part rfl cut, leads, free, put⟩

end Operation

/-! ### Several operations -/

/-- What operations do one after the other, up to the first one that fails, which is told with its
path. -/
def performAll (fs : Files) : List Operation → Except (Path × OsError) Unit × Files
  | [] => (.ok (), fs)
  | op :: ops =>
    match op.apply fs with
    | (.ok (), fs') => performAll fs' ops
    | (.error e, fs') => (.error (op.path, e), fs')

theorem performAll_cons_of_ok (once : op.apply fs = (.ok (), fs₁)) (ops : List Operation) :
    fs.performAll (op :: ops) = fs₁.performAll ops := by
  rw [performAll, once]

/-- Operations that all succeeded did so one after the other. -/
theorem performAll_cons_eq_ok (h : fs.performAll (op :: ops) = (.ok (), fs')) :
    ∃ fs₁, op.apply fs = (.ok (), fs₁) ∧ fs₁.performAll ops = (.ok (), fs') := by
  rw [performAll] at h
  rcases once : op.apply fs with ⟨e | ⟨⟨⟩⟩, fs₁⟩
  · rw [once] at h
    cases h
  · rw [once] at h
    exact ⟨fs₁, rfl, h⟩

/-- Operations that come after others are done if none of those fails. -/
theorem performAll_append (fs : Files) (ops more : List Operation) :
    fs.performAll (ops ++ more) = match fs.performAll ops with
      | (.ok (), fs') => fs'.performAll more
      | (.error e, fs') => (.error e, fs') := by
  induction ops generalizing fs with
  | nil => rfl
  | cons op ops ih =>
    rw [List.cons_append, performAll, performAll]
    rcases op.apply fs with ⟨e | ⟨⟨⟩⟩, fs₁⟩
    · rfl
    · exact ih fs₁

/-- Where operations all succeed that come after others, so do the others. -/
theorem performAll_append_eq_ok {more : List Operation}
    (h : fs.performAll (ops ++ more) = (.ok (), fs')) :
    ∃ fs₁, fs.performAll ops = (.ok (), fs₁) ∧ fs₁.performAll more = (.ok (), fs') := by
  rw [performAll_append] at h
  rcases first : fs.performAll ops with ⟨e | ⟨⟨⟩⟩, fs₁⟩ <;> rw [first] at h
  · exact nomatch h
  · exact ⟨fs₁, rfl, h⟩

/-- Where operations succeed, the last one does after the others. -/
theorem performAll_concat_eq_ok (h : fs.performAll (ops ++ [op]) = (.ok (), fs')) :
    ∃ fs₁, fs.performAll ops = (.ok (), fs₁) ∧ op.apply fs₁ = (.ok (), fs') := by
  obtain ⟨fs₁, before, last⟩ := performAll_append_eq_ok h
  obtain ⟨_, once, none⟩ := performAll_cons_eq_ok last
  obtain ⟨-, rfl⟩ := Prod.mk.inj none
  exact ⟨fs₁, before, once⟩

/-- Where operations fail, one of the first of them does, or they all succeed and it is the last
one. -/
theorem performAll_concat_eq_error {p : Path} {e : OsError}
    (h : fs.performAll (ops ++ [op]) = (.error (p, e), fs')) :
    fs.performAll ops = (.error (p, e), fs') ∨
      ∃ fs₁, fs.performAll ops = (.ok (), fs₁) ∧ op.apply fs₁ = (.error e, fs') ∧ p = op.path := by
  rw [performAll_append] at h
  rcases first : fs.performAll ops with ⟨d | ⟨⟨⟩⟩, fs₁⟩ <;> rw [first] at h
  · exact .inl h
  · refine .inr ⟨fs₁, rfl, ?_⟩
    have last : fs₁.performAll [op] = (.error (p, e), fs') := h
    rw [performAll] at last
    rcases done : op.apply fs₁ with ⟨d | ⟨⟨⟩⟩, fs₂⟩ <;> rw [done] at last
    · cases last
      exact ⟨rfl, rfl⟩
    · exact nomatch last

/-- Operations fail where the last of them does. -/
theorem performAll_concat_of_error {e : OsError} (first : fs.performAll ops = (.ok (), fs₁))
    (last : op.apply fs₁ = (.error e, fs')) :
    fs.performAll (ops ++ [op]) = (.error (op.path, e), fs') := by
  rw [performAll_append, first]
  show fs₁.performAll [op] = _
  rw [performAll, last]

/-- Operations that all succeeded do the same where nothing can happen to any of them. -/
theorem performAll_mended (h : fs.performAll ops = (.ok (), fs')) :
    fs.mended.performAll ops = (.ok (), fs'.mended) := by
  induction ops generalizing fs with
  | nil =>
    cases h
    rfl
  | cons op ops ih =>
    obtain ⟨fs₁, once, later⟩ := performAll_cons_eq_ok h
    rw [performAll_cons_of_ok (Operation.apply_mended once)]
    exact ih later

/-- Operations that all succeeded do so as well where something happens to those after them only. -/
theorem performAll_withFaults (h : fs.performAll ops = (.ok (), fs'))
    (faults : List (Option Fault)) :
    (fs.withFaults (List.replicate ops.length none ++ faults)).performAll ops =
      (.ok (), fs'.withFaults faults) := by
  induction ops generalizing fs with
  | nil =>
    cases h
    rfl
  | cons op ops ih =>
    obtain ⟨fs₁, once, later⟩ := performAll_cons_eq_ok h
    obtain ⟨-, fs₂, whole, rfl⟩ := Operation.apply_eq_ok.1 once
    have first : op.apply (fs.withFaults (List.replicate (op :: ops).length none ++ faults)) =
        (.ok (), fs₂.withFaults (List.replicate ops.length none ++ faults)) := by
      refine Operation.apply_eq_ok.2
        ⟨rfl, fs₂.withFaults (none :: (List.replicate ops.length none ++ faults)), ?_, rfl⟩
      rw [Operation.whole_withFaults, whole]
      rfl
    have rest := ih later
    rw [performAll_cons_of_ok first]
    exact rest

/-- What every one of some operations keeps, whether it succeeds or fails, they keep together. -/
theorem performAll_induction {motive : Files → Prop}
    (step : ∀ op ∈ ops, ∀ fs, motive fs → motive (op.apply fs).2) (h : motive fs) :
    motive (fs.performAll ops).2 := by
  induction ops generalizing fs with
  | nil => exact h
  | cons op ops ih =>
    obtain ⟨first, rest⟩ := List.forall_mem_cons.1 step
    have once := first fs h
    rw [performAll]
    rcases made : op.apply fs with ⟨e | ⟨⟨⟩⟩, fs₁⟩ <;> rw [made] at once
    · exact once
    · exact ih rest once

/-! ### What operations change -/

/-- Directories are made at the beginnings of some names only, where nothing was, also where one of
them cannot be made. -/
theorem get?_makeFrom (fs : Files) (passed names other : List String) :
    (fs.makeFrom passed names).2.get? other = fs.get? other ∨
      other <+: passed ++ names ∧ fs.get? other = none ∧
        (fs.makeFrom passed names).2.get? other = some .directory := by
  induction names generalizing fs passed with
  | nil => exact .inl rfl
  | cons name names ih =>
    rw [List.append_cons, makeFrom]
    split
    · exact .inl rfl
    · split
      next => exact ih fs _
      next => exact .inl rfl
      next free =>
        have ne : passed ++ [name] ≠ [] := by simp
        by_cases here : passed ++ [name] = other
        · -- what was made here stays
          subst here
          refine .inr ⟨List.prefix_append _ _, free, ?_⟩
          rcases ih (fs.set (passed ++ [name]) .directory) (passed ++ [name]) with same | made
          · rw [same, get?_set_self ne]
          · exact made.2.2
        · have elsewhere := ih (fs.set (passed ++ [name]) .directory) (passed ++ [name])
          rwa [get?_set_of_ne ne here] at elsewhere

/-- Directories are made on the way to the goals only, where nothing was. -/
theorem get?_makeAll (fs : Files) (goals : List (List String)) (other : List String) :
    (fs.makeAll goals).2.get? other = fs.get? other ∨
      (∃ goal ∈ goals, other <+: goal) ∧ fs.get? other = none ∧
        (fs.makeAll goals).2.get? other = some .directory := by
  induction goals generalizing fs with
  | nil => exact .inl rfl
  | cons names goals ih =>
    have once := fs.get?_makeFrom [] names other
    rw [makeAll]
    rcases first : fs.makeFrom [] names with ⟨e | ⟨⟨⟩⟩, fs₁⟩ <;> rw [first] at once
    · exact once.imp_right (.imp_left fun front ↦ ⟨names, List.mem_cons_self, front⟩)
    · rcases once with same | ⟨front, free, made⟩
      · rw [← same]
        refine (ih fs₁).imp_right (.imp_left ?_)
        rintro ⟨goal, hg, front⟩
        exact ⟨goal, List.mem_cons_of_mem names hg, front⟩
      · refine .inr ⟨⟨names, List.mem_cons_self, front⟩, free, ?_⟩
        rcases ih fs₁ with same | ⟨-, free', -⟩
        · exact same.trans made
        · cases made.symm.trans free'

theorem here_makeFrom (fs : Files) (passed names : List String) :
    (fs.makeFrom passed names).2.workingDirectory = fs.workingDirectory := by
  induction names generalizing fs passed with
  | nil => rfl
  | cons name names ih =>
    rw [makeFrom]
    split
    · rfl
    · split
      · exact ih fs _
      · rfl
      · exact ih (fs.set (passed ++ [name]) .directory) _

theorem here_makeAll (fs : Files) (goals : List (List String)) :
    (fs.makeAll goals).2.workingDirectory = fs.workingDirectory := by
  induction goals generalizing fs with
  | nil => rfl
  | cons names goals ih =>
    have once := fs.here_makeFrom [] names
    rw [makeAll]
    rcases first : fs.makeFrom [] names with ⟨e | ⟨⟨⟩⟩, fs₁⟩ <;> rw [first] at once
    · exact once
    · exact (ih fs₁).trans once

/-- The first names that lead to some goals lead there. -/
theorem exists_goal_of_mem_firstNames {n : Nat} {goals : List (List String)}
    (h : names ∈ firstNames n goals) : ∃ goal ∈ goals, names <+: goal := by
  induction goals generalizing n with
  | nil => exact absurd h List.not_mem_nil
  | cons goal goals ih =>
    rcases List.mem_cons.1 h with rfl | h
    · exact ⟨goal, List.mem_cons_self, List.take_prefix n goal⟩
    · obtain ⟨goal', hg, front⟩ := ih h
      exact ⟨goal', List.mem_cons_of_mem goal hg, front⟩

namespace Operation

/-- Nothing is different but what an operation is for: a file at its path where no directory was, or
new directories on the way to the goals of one that makes directories. -/
structure Touches (op : Operation) (fs fs' : Files) : Prop where
  /-- Paths lead where they led. -/
  here : fs'.workingDirectory = fs.workingDirectory
  /-- What is different. -/
  get? : ∀ names, fs'.get? names = fs.get? names ∨
    (∃ p, op = .makeDirectories p ∧ (∃ goal ∈ fs.goals p, names <+: goal) ∧
      fs.get? names = none ∧ fs'.get? names = some .directory) ∨
    ∃ content x, names = fs.locate op.path ∧ (∀ p, op ≠ .makeDirectories p) ∧
      fs.get? names ≠ some .directory ∧ fs'.get? names = some (.file content x)

namespace Touches

theorem withFaults (op : Operation) (fs : Files) (faults : List (Option Fault)) :
    op.Touches fs (fs.withFaults faults) :=
  ⟨rfl, fun _ ↦ .inl rfl⟩

theorem of_next (h : op.Touches fs.next fs') : op.Touches fs fs' :=
  ⟨h.here, h.get?⟩

/-- Putting a file at its path is what such an operation is for. -/
theorem of_puts {content : Content} (ne : ∀ p, op ≠ .makeDirectories p)
    (put : fs.Puts fs' op.path content) : op.Touches fs fs' := by
  refine ⟨put.here, fun names ↦ ?_⟩
  by_cases there : fs.locate op.path = names
  · obtain ⟨x, found⟩ := put.get?_self
    exact .inr (.inr ⟨content, x, there.symm, ne, there ▸ put.free, there ▸ found⟩)
  · exact .inl (put.get?_of_ne there)

/-- Writing a file, or making one executable, does so at its place, if at all. -/
theorem orElse (ne : ∀ p, op ≠ .makeDirectories p) {outcome : Except OsError Files}
    (put : ∀ fs', outcome = .ok fs' → fs' = fs ∨ ∃ content, fs.Puts fs' op.path content) :
    op.Touches fs (fs.orElse outcome).2 := by
  cases outcome with
  | error e => exact withFaults op fs fs.faults
  | ok fs' =>
    rcases put fs' rfl with rfl | ⟨content, put⟩
    · exact withFaults op fs' fs'.faults
    · exact of_puts ne put

/-- Directories on the way to the goals are what such an operation is for. -/
theorem makeAll {p : Path} {goals : List (List String)}
    (lead : ∀ names ∈ goals, ∃ goal ∈ fs.goals p, names <+: goal) :
    (makeDirectories p).Touches fs (fs.makeAll goals).2 := by
  refine ⟨fs.here_makeAll goals, fun names ↦ ?_⟩
  refine (fs.get?_makeAll goals names).imp_right fun ⟨⟨front, hf, before⟩, free, made⟩ ↦ ?_
  obtain ⟨goal, hg, after⟩ := lead front hf
  exact .inl ⟨p, rfl, ⟨goal, hg, before.trans after⟩, free, made⟩

end Touches

/-- What an operation does by itself is what it is for. -/
theorem touches_whole (op : Operation) (fs : Files) : op.Touches fs (op.whole fs).2 := by
  cases op with
  | makeDirectories p => exact .makeAll fun goal hg ↦ ⟨goal, hg, List.prefix_rfl⟩
  | write p content =>
    have file : ∀ q, write p content ≠ .makeDirectories q := nofun
    exact .orElse file fun _ h ↦ .inr ⟨content, puts_of_write h⟩
  | makeExecutable p =>
    have file : ∀ q, makeExecutable p ≠ .makeDirectories q := nofun
    exact .orElse file fun _ h ↦ puts_of_makeExecutable h

/-- So is what it does before something happens to it. -/
theorem touches_part (op : Operation) (fs : Files) (done : Option Nat) :
    op.Touches fs (op.part fs done).2 := by
  cases done with
  | none => exact .withFaults op fs fs.faults
  | some n =>
    cases op with
    | makeDirectories p => exact .makeAll fun _ hn ↦ exists_goal_of_mem_firstNames hn
    | write p content =>
      have file : ∀ q, write p content ≠ .makeDirectories q := nofun
      exact .orElse file fun _ h ↦ .inr ⟨content.take n, puts_of_write h⟩
    | makeExecutable p => exact .withFaults _ fs fs.faults

/-- An operation changes nothing but what it is for, also where it fails. -/
theorem touches_apply (op : Operation) (fs : Files) : op.Touches fs (op.apply fs).2 := by
  rw [apply]
  cases fs.fault? with
  | none => exact (touches_whole op fs.next).of_next
  | some fault =>
    have part := (touches_part op fs.next fault.done).of_next
    rcases cut : op.part fs.next fault.done with ⟨e | ⟨⟨⟩⟩, fs₁⟩ <;> rw [cut] at part <;>
      simp only [cut] <;> exact part

/-- Writing a file changes nothing elsewhere, also where it fails. -/
theorem get?_apply_write {p : Path} (content : Content) (ne : names ≠ fs.locate p) :
    ((write p content).apply fs).2.get? names = fs.get? names := by
  rcases (touches_apply (write p content) fs).get? names with same | ⟨_, other, -⟩ |
    ⟨_, _, here, -⟩
  · exact same
  · exact nomatch other
  · exact absurd here ne

/-- No operation takes a directory away, also where it fails. -/
theorem directory_apply (op : Operation) (h : fs.get? names = some .directory) :
    (op.apply fs).2.get? names = some .directory := by
  rcases (touches_apply op fs).get? names with same | ⟨_, -, -, -, made⟩ | ⟨_, _, -, -, free, -⟩
  · exact same.trans h
  · exact made
  · exact absurd h free

end Operation

/-- Several operations take no directory away. -/
theorem directory_performAll (ops : List Operation) (h : fs.get? names = some .directory) :
    (fs.performAll ops).2.get? names = some .directory :=
  performAll_induction (motive := fun fs' ↦ fs'.get? names = some .directory)
    (fun op _ _ h ↦ op.directory_apply h) h

theorem here_performAll (fs : Files) (ops : List Operation) :
    (fs.performAll ops).2.workingDirectory = fs.workingDirectory :=
  performAll_induction (motive := fun fs' ↦ fs'.workingDirectory = fs.workingDirectory)
    (fun op _ fs' h ↦ (op.touches_apply fs').here.trans h) rfl

/-- Paths stand for the same names after any operations. -/
theorem locate_performAll (fs : Files) (ops : List Operation) :
    (fs.performAll ops).2.locate = fs.locate :=
  locate_congr (fs.here_performAll ops)

/-- Operations change nothing but what they are for, also where one of them fails: what is different
afterwards is a file at the place of one that was written or marked, or a new directory on the way
to one that was made. -/
theorem get?_performAll (fs : Files) (ops : List Operation) (names : List String) :
    (fs.performAll ops).2.get? names = fs.get? names ∨
      (∃ p, .makeDirectories p ∈ ops ∧ (∃ goal ∈ fs.goals p, names <+: goal) ∧
        fs.get? names = none ∧ (fs.performAll ops).2.get? names = some .directory) ∨
      (∃ op ∈ ops, ∃ content x, names = fs.locate op.path ∧ (∀ p, op ≠ .makeDirectories p) ∧
        (fs.performAll ops).2.get? names = some (.file content x)) := by
  let motive (fs' : Files) : Prop := fs'.workingDirectory = fs.workingDirectory ∧
    (fs'.get? names = fs.get? names ∨
    (∃ p, .makeDirectories p ∈ ops ∧ (∃ goal ∈ fs.goals p, names <+: goal) ∧
      fs.get? names = none ∧ fs'.get? names = some .directory) ∨
    (∃ op ∈ ops, ∃ content x, names = fs.locate op.path ∧ (∀ p, op ≠ .makeDirectories p) ∧
      fs'.get? names = some (.file content x)))
  refine (performAll_induction (motive := motive) (fun op hop fs' h ↦ ?_) ⟨rfl, .inl rfl⟩).2
  obtain ⟨here, before⟩ := h
  obtain ⟨stays, touched⟩ := op.touches_apply fs'
  refine ⟨stays.trans here, ?_⟩
  rcases touched names with same | ⟨p, rfl, front, free, made⟩ | ⟨c, x, there, ne, -, put⟩
  · rwa [same]
  · -- Where a directory is new, none of the operations before has put anything.
    rw [goals_congr here] at front
    rcases before with same | ⟨-, -, -, -, there⟩ | ⟨_, _, _, _, _, _, there⟩
    · exact .inr (.inl ⟨p, hop, front, same ▸ free, made⟩)
    · rw [free] at there
      cases there
    · rw [free] at there
      cases there
  · rw [locate_congr here] at there
    exact .inr (.inr ⟨op, hop, c, x, there, ne, put⟩)

end Toolsmith.Files
