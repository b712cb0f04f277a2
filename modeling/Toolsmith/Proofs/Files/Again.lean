import Toolsmith.Proofs.Files.Operation

/-!
# Operations done again

No operation takes anything away: directories stay directories, files stay files, and what can be
executed still can be afterwards. So operations that all succeeded find what they made when they are
done again, and put the same into every file in the end: nothing changes, not even the order of the
files, as long as nothing happens to any of them.

## Main definitions

* `Files.Keeps`: nothing was taken away.
* `Files.refill`: something else is put into a file.
* `Files.Operation.Settled`: an operation that can be done and makes nothing new.

## Main statements

* `Files.settled_of_performAll`: operations that succeeded make nothing new.
* `Files.redoAll_eq_self`: the texts that they put into files are there.
* `Files.performAll_again`: operations that succeeded are done again without any effect.
-/

namespace Toolsmith.Files

variable {fs fs' fs₁ : Files} {op : Operation} {ops : List Operation} {names other : List String}

/-! ### Nothing is taken away -/

/-- Nothing was taken away: directories stay directories, files stay files, and what can be executed
still can be. -/
structure Keeps (fs fs' : Files) : Prop where
  /-- Paths lead where they led. -/
  here : fs'.workingDirectory = fs.workingDirectory
  /-- Directories are directories. -/
  directory : ∀ {names}, fs.get? names = some .directory → fs'.get? names = some .directory
  /-- Files are files, and can be executed if they could be. -/
  file : ∀ {names content x}, fs.get? names = some (.file content x) →
    ∃ content' x', fs'.get? names = some (.file content' x') ∧ (x = true → x' = true)

namespace Keeps

theorem refl (fs : Files) : fs.Keeps fs :=
  ⟨rfl, id, fun h ↦ ⟨_, _, h, id⟩⟩

/-- What two lists of operations keep, they keep one after the other. -/
theorem trans {fs'' : Files} (h : fs.Keeps fs') (h' : fs'.Keeps fs'') : fs.Keeps fs'' where
  here := h'.here.trans h.here
  directory there := h'.directory (h.directory there)
  file there := by
    obtain ⟨_, _, there', still⟩ := h.file there
    obtain ⟨_, _, there'', still'⟩ := h'.file there'
    exact ⟨_, _, there'', still' ∘ still⟩

theorem locate_eq (h : fs.Keeps fs') : fs'.locate = fs.locate :=
  locate_congr h.here

theorem leads {p : Path} (h : fs.Keeps fs') (hl : fs.Leads p) : fs'.Leads p :=
  hl.mono h.here fun _ ↦ h.directory

/-- What happens to later operations takes nothing away. -/
theorem withFaults (h : fs.Keeps fs') (faults : List (Option Fault)) :
    fs.Keeps (fs'.withFaults faults) :=
  ⟨h.here, h.directory, h.file⟩

end Keeps

theorem Grows.keeps (h : fs.Grows fs') : fs.Keeps fs' :=
  ⟨h.here, h.kept, fun there ↦ ⟨_, _, h.kept there, id⟩⟩

/-- A file that takes the place of one, or of nothing, and can be executed if that could be. -/
theorem keeps_set {content : Content} {x : Bool} (free : fs.get? names ≠ some .directory)
    (still : ∀ content' x', fs.get? names = some (.file content' x') → x' = true → x = true) :
    fs.Keeps (fs.set names (.file content x)) := by
  have ne : names ≠ [] := by
    rintro rfl
    exact free (get?_nil fs)
  refine ⟨rfl, fun {other} there ↦ ?_, fun {other c y} there ↦ ?_⟩
  · rw [get?_set_of_ne ne, there]
    rintro rfl
    exact free there
  · by_cases here : names = other
    · subst here
      exact ⟨content, x, get?_set_self ne, still c y there⟩
    · exact ⟨c, y, by rw [get?_set_of_ne ne here, there], id⟩

/-! ### Texts replaced in place -/

/-- The node with something else in it, if it is a file. -/
def Node.refill (content : Content) : Node → Node
  | .directory => .directory
  | .file _ x => .file content x

/-- The entries with something else in the file at the end of some names, if there is one. -/
def Entries.refill : Entries → List String → Content → Entries
  | [], _, _ => []
  | (k, m) :: rest, names, content =>
    if k = names then (k, m.refill content) :: rest else (k, m) :: refill rest names content

namespace Entries

variable {entries : Entries} {content content' : Content} {x : Bool}

/-- Of two contents that a file is filled with, the second one stays. -/
theorem refill_refill (entries : Entries) (names : List String) (content content' : Content) :
    (entries.refill names content).refill names content' = entries.refill names content' := by
  induction entries with
  | nil => rfl
  | cons e entries ih =>
    obtain ⟨k, m⟩ := e
    rw [refill, refill]
    split
    next here =>
      rw [refill, if_pos here]
      cases m <;> rfl
    next elsewhere => rw [refill, if_neg elsewhere, ih]

/-- Different files are filled in any order. -/
theorem refill_comm (ne : names ≠ other) (entries : Entries) (content content' : Content) :
    (entries.refill names content).refill other content' =
      (entries.refill other content').refill names content := by
  induction entries with
  | nil => rfl
  | cons e entries ih =>
    obtain ⟨k, m⟩ := e
    rw [refill, refill]
    by_cases here : k = names
    · have elsewhere : k ≠ other := fun h ↦ ne (here.symm.trans h)
      rw [if_pos here, if_neg elsewhere, refill, refill, if_pos here, if_neg elsewhere]
    · rw [if_neg here]
      by_cases there : k = other
      · rw [if_pos there, refill, refill, if_pos there, if_neg here]
      · rw [if_neg there, refill, refill, if_neg there, if_neg here, ih]

/-- Putting the same into a file changes nothing. -/
theorem refill_self (there : entries.get? names = some (.file content x)) :
    entries.refill names content = entries := by
  induction entries with
  | nil => rfl
  | cons e entries ih =>
    obtain ⟨k, m⟩ := e
    rw [get?] at there
    rw [refill]
    split
    next here =>
      rw [if_pos here] at there
      obtain rfl := Option.some.inj there
      rfl
    next elsewhere =>
      rw [if_neg elsewhere] at there
      rw [ih there]

/-- A file that takes the place of one does so in place. -/
theorem set_eq_refill (there : entries.get? names = some (.file content x)) :
    entries.set names (.file content' x) = entries.refill names content' := by
  induction entries with
  | nil => cases there
  | cons e entries ih =>
    obtain ⟨k, m⟩ := e
    rw [get?] at there
    rw [set, refill]
    split
    next here =>
      rw [if_pos here] at there
      obtain rfl := Option.some.inj there
      rfl
    next elsewhere =>
      rw [if_neg elsewhere] at there
      rw [ih there]

end Entries

/-- The files with something else in one of them. -/
def refill (fs : Files) (names : List String) (content : Content) : Files :=
  { fs with entries := fs.entries.refill names content }

theorem get?_eq_entries {content : Content} {x : Bool}
    (there : fs.get? names = some (.file content x)) :
    fs.entries.get? names = some (.file content x) := by
  rw [get?] at there
  split at there
  · cases there
  · exact there

theorem refill_self {content : Content} {x : Bool}
    (there : fs.get? names = some (.file content x)) : fs.refill names content = fs := by
  rw [refill, Entries.refill_self (get?_eq_entries there)]

theorem set_eq_refill {content content' : Content} {x : Bool}
    (there : fs.get? names = some (.file content x)) :
    fs.set names (.file content' x) = fs.refill names content' := by
  rw [set, refill, Entries.set_eq_refill (get?_eq_entries there)]

/-! ### Operations that make nothing new -/

namespace Operation

/-- An operation can be done and makes nothing new: its directory, its file or its mark is there. -/
def Settled (fs : Files) : Operation → Prop
  | makeDirectories p => fs.Leads p ∧ fs.get? (fs.locate p) = some .directory
  | write p _ => fs.Leads p ∧ ∃ c x, fs.get? (fs.locate p) = some (.file c x)
  | makeExecutable p => fs.Leads p ∧
      (fs.get? (fs.locate p) = some .directory ∨ ∃ c, fs.get? (fs.locate p) = some (.file c true))

/-- What an operation does that makes nothing new. -/
def redo (fs : Files) : Operation → Files
  | makeDirectories _ => fs
  | write p content => fs.refill (fs.locate p) content
  | makeExecutable _ => fs

/-- An operation writes a file at the end of some names. -/
def WritesAt (fs : Files) (names : List String) : Operation → Prop
  | makeDirectories _ => False
  | write p _ => fs.locate p = names
  | makeExecutable _ => False

theorem writesAt_congr (h : fs'.locate = fs.locate) :
    op.WritesAt fs' names ↔ op.WritesAt fs names := by
  cases op <;> simp only [WritesAt, h]

/-- A file is written at the place of its path. -/
theorem locate_of_writesAt (h : op.WritesAt fs names) : fs.locate op.path = names := by
  obtain p | ⟨p, text⟩ | p := op
  · exact h.elim
  · exact h
  · exact h.elim

/-- An operation whose work is done does it again, and all that it changes is the content. -/
theorem whole_of_settled (h : op.Settled fs) : op.whole fs = (.ok (), op.redo fs) := by
  cases op with
  | makeDirectories p => exact makeDirectories_of_leads h.1 h.2
  | write p content =>
    obtain ⟨leads, c, x, there⟩ := h
    have reached : fs.reach p = .ok () := leads
    simp only [whole, redo, Files.write, reached, there, orElse, bind, Except.bind,
      set_eq_refill there]
  | makeExecutable p =>
    obtain ⟨leads, there | ⟨c, there⟩⟩ := h
    · simp only [whole, redo, Files.makeExecutable, lookup_of_get? leads there, orElse, bind,
        Except.bind]
    · simp only [whole, redo, Files.makeExecutable, lookup_of_get? leads there, orElse, bind,
        Except.bind, set_eq_refill there, refill_self there]

/-- Where nothing happens, an operation whose work is done succeeds again. -/
theorem apply_of_settled (h : op.Settled fs) :
    op.apply fs.mended = (.ok (), (op.redo fs).mended) := by
  refine apply_eq_ok.2 ⟨rfl, (op.redo fs).mended, ?_, rfl⟩
  rw [mended, whole_withFaults, whole_of_settled h]
  rfl

/-- An operation that succeeded took nothing away. -/
theorem keeps_apply (h : op.apply fs = (.ok (), fs')) : fs.Keeps fs' := by
  cases op with
  | makeDirectories p => exact (grows_of_apply h).1.keeps
  | write p content =>
    obtain ⟨-, fs₁, whole, rfl⟩ := apply_eq_ok.1 h
    obtain ⟨-, written⟩ := check_bind_eq_ok.1 (orElse_eq_ok whole)
    refine Keeps.withFaults ?_ _
    split at written
    next => cases written
    next c x there =>
      cases written
      refine keeps_set (by rw [there]; simp) fun c' x' there' ↦ ?_
      rw [there] at there'
      cases there'
      exact id
    next free =>
      cases written
      exact keeps_set (by rw [free]; simp) fun c' x' there ↦ by rw [free] at there; cases there
  | makeExecutable p =>
    obtain ⟨-, fs₁, whole, rfl⟩ := apply_eq_ok.1 h
    obtain ⟨m, found, made⟩ := bind_eq_ok.1 (orElse_eq_ok whole)
    obtain ⟨-, there⟩ := get?_of_lookup found
    refine Keeps.withFaults ?_ _
    cases m with
    | directory =>
      cases made
      exact .refl fs
    | file c x =>
      cases made
      exact keeps_set (by rw [there]; simp) fun _ _ _ _ ↦ rfl

/-- An operation that succeeded makes nothing new when it is done again. -/
theorem settled_apply (h : op.apply fs = (.ok (), fs')) : op.Settled fs' := by
  cases op with
  | makeDirectories p =>
    obtain ⟨grows, leads, there⟩ := grows_of_apply h
    rw [Settled, grows.locate_eq]
    exact ⟨leads, there⟩
  | write p content =>
    obtain ⟨leads, x, there⟩ := (puts_of_apply h).placed
    exact ⟨leads, _, x, there⟩
  | makeExecutable p =>
    have keeps := keeps_apply h
    obtain ⟨-, fs₁, whole, rfl⟩ := apply_eq_ok.1 h
    obtain ⟨m, found, -⟩ := bind_eq_ok.1 (orElse_eq_ok whole)
    obtain ⟨leads, there⟩ := get?_of_lookup found
    refine ⟨keeps.leads leads, ?_⟩
    cases m with
    | directory => exact .inl (by rw [keeps.locate_eq]; exact keeps.directory there)
    | file c x => exact .inr ⟨c, (marked_of_apply h there).2⟩

/-- The work of an operation stays done as long as nothing is taken away. -/
theorem Settled.keeps (h : op.Settled fs) (more : fs.Keeps fs') : op.Settled fs' := by
  cases op with
  | makeDirectories p =>
    obtain ⟨leads, there⟩ := h
    rw [Settled, more.locate_eq]
    exact ⟨more.leads leads, more.directory there⟩
  | write p content =>
    obtain ⟨leads, c, x, there⟩ := h
    obtain ⟨c', x', there', -⟩ := more.file there
    rw [Settled, more.locate_eq]
    exact ⟨more.leads leads, c', x', there'⟩
  | makeExecutable p =>
    obtain ⟨leads, there⟩ := h
    rw [Settled, more.locate_eq]
    refine ⟨more.leads leads, there.imp more.directory ?_⟩
    rintro ⟨c, there⟩
    obtain ⟨c', x', there', still⟩ := more.file there
    exact ⟨c', by rw [there', still rfl]⟩

/-- What a file holds stays as long as no operation writes it. -/
theorem content_apply {content : Content} {x : Bool} (h : op.apply fs = (.ok (), fs'))
    (idle : ¬ op.WritesAt fs names) (there : fs.get? names = some (.file content x)) :
    ∃ x', fs'.get? names = some (.file content x') := by
  cases op with
  | makeDirectories p => exact ⟨x, (grows_of_apply h).1.kept there⟩
  | write p _ => exact ⟨x, by rw [(puts_of_apply h).get?_of_ne idle, there]⟩
  | makeExecutable p =>
    by_cases here : fs.locate p = names
    · obtain ⟨-, marked⟩ := marked_of_apply h (by rw [here]; exact there)
      rw [(keeps_apply h).locate_eq, here] at marked
      exact ⟨true, marked⟩
    · rcases puts_of_apply_makeExecutable h with ⟨faults, rfl⟩ | ⟨_, put⟩
      · exact ⟨x, there⟩
      · exact ⟨x, by rw [put.get?_of_ne here, there]⟩

end Operation

/-! ### Operations done again -/

/-- What operations do that make nothing new. -/
def redoAll (fs : Files) (ops : List Operation) : Files :=
  ops.foldl (fun fs op ↦ op.redo fs) fs

theorem Operation.keeps_redo (h : op.Settled fs) : fs.Keeps (op.redo fs) := by
  obtain ⟨here, directory, file⟩ := Operation.keeps_apply (Operation.apply_of_settled h)
  exact ⟨here, directory, file⟩

/-- Operations whose work is done all succeed again, where nothing happens. -/
theorem performAll_of_settled (h : ∀ op ∈ ops, op.Settled fs) :
    fs.mended.performAll ops = (.ok (), (fs.redoAll ops).mended) := by
  induction ops generalizing fs with
  | nil => rfl
  | cons op ops ih =>
    obtain ⟨first, rest⟩ := List.forall_mem_cons.1 h
    rw [performAll_cons_of_ok (Operation.apply_of_settled first)]
    exact ih fun op' h' ↦ (rest op' h').keeps (Operation.keeps_redo first)

/-- Operations that all succeeded took nothing away. -/
theorem keeps_performAll (h : fs.performAll ops = (.ok (), fs')) : fs.Keeps fs' := by
  induction ops generalizing fs with
  | nil =>
    cases h
    exact .refl _
  | cons op ops ih =>
    obtain ⟨fs₁, once, later⟩ := performAll_cons_eq_ok h
    exact (Operation.keeps_apply once).trans (ih later)

/-- The work of operations that all succeeded is done. -/
theorem settled_of_performAll (h : fs.performAll ops = (.ok (), fs')) :
    ∀ op ∈ ops, op.Settled fs' := by
  induction ops generalizing fs with
  | nil => exact fun _ hop ↦ absurd hop List.not_mem_nil
  | cons op ops ih =>
    obtain ⟨fs₁, once, later⟩ := performAll_cons_eq_ok h
    exact List.forall_mem_cons.2
      ⟨(Operation.settled_apply once).keeps (keeps_performAll later), ih later⟩

/-- A file keeps its content if no operation writes it. -/
theorem content_performAll {content : Content} {x : Bool}
    (h : fs.performAll ops = (.ok (), fs')) (idle : ∀ op ∈ ops, ¬ op.WritesAt fs names)
    (there : fs.get? names = some (.file content x)) :
    ∃ x', fs'.get? names = some (.file content x') := by
  induction ops generalizing fs x with
  | nil =>
    cases h
    exact ⟨x, there⟩
  | cons op ops ih =>
    obtain ⟨fs₁, once, later⟩ := performAll_cons_eq_ok h
    obtain ⟨first, rest⟩ := List.forall_mem_cons.1 idle
    obtain ⟨x', there'⟩ := Operation.content_apply once first there
    have at_ := (Operation.keeps_apply once).locate_eq
    exact ih later (fun op' h' ↦ mt (Operation.writesAt_congr at_).1 (rest op' h')) there'

/-- What is put into a file does not matter where it is written later on. -/
theorem redoAll_refill (later : ∃ op ∈ ops, op.WritesAt fs names) (content : Content) :
    (fs.refill names content).redoAll ops = fs.redoAll ops := by
  induction ops generalizing fs with
  | nil =>
    obtain ⟨_, h, -⟩ := later
    exact absurd h List.not_mem_nil
  | cons op ops ih =>
    rw [redoAll, redoAll, List.foldl_cons, List.foldl_cons]
    by_cases here : op.WritesAt fs names
    · -- The text that is written here takes the place of what was put there.
      cases op with
      | write p _ =>
        have at_ : fs.locate p = names := here
        show List.foldl _ ((fs.refill names content).refill (fs.locate p) _) ops =
          List.foldl _ (fs.refill (fs.locate p) _) ops
        rw [at_]
        simp only [refill, Entries.refill_refill]
      | makeDirectories p => exact here.elim
      | makeExecutable p => exact here.elim
    · have rest : ∃ op ∈ ops, op.WritesAt fs names := by
        obtain ⟨op', hop, writes⟩ := later
        rcases List.mem_cons.1 hop with rfl | hop
        · exact absurd writes here
        · exact ⟨op', hop, writes⟩
      cases op with
      | write p text =>
        have elsewhere : names ≠ fs.locate p := fun h ↦ here h.symm
        have swapped : (fs.refill names content).refill (fs.locate p) text =
            (fs.refill (fs.locate p) text).refill names content := by
          simp only [refill, Entries.refill_comm elsewhere]
        show List.foldl _ ((fs.refill names content).refill (fs.locate p) _) ops = _
        rw [swapped]
        exact ih rest
      | makeDirectories p => exact ih rest
      | makeExecutable p => exact ih rest

/-- Upon what operations left behind they put into every file what is there. -/
theorem redoAll_eq_self (h : fs.performAll ops = (.ok (), fs')) : fs'.redoAll ops = fs' := by
  induction ops generalizing fs with
  | nil => rfl
  | cons op ops ih =>
    obtain ⟨fs₁, once, after⟩ := performAll_cons_eq_ok h
    have rest := ih after
    cases op with
    | makeDirectories p => exact rest
    | makeExecutable p => exact rest
    | write p text =>
      show (fs'.refill (fs'.locate p) text).redoAll ops = fs'
      by_cases later : ∃ op ∈ ops, op.WritesAt fs' (fs'.locate p)
      · rw [redoAll_refill later, rest]
      · -- The last text that was written is there.
        have keeps := keeps_performAll after
        obtain ⟨-, x, there⟩ := (Operation.puts_of_apply once).placed
        rw [← keeps.locate_eq] at there
        obtain ⟨x', there'⟩ := content_performAll after (fun op hop writes ↦
          later ⟨op, hop, (Operation.writesAt_congr keeps.locate_eq).2 writes⟩) there
        rw [refill_self there', rest]

/-- Operations that all succeeded succeed again upon what they left behind, if nothing happens to
them, and leave it as it is. -/
theorem performAll_again (h : fs.performAll ops = (.ok (), fs')) :
    fs'.mended.performAll ops = (.ok (), fs'.mended) := by
  rw [performAll_of_settled (settled_of_performAll h), redoAll_eq_self h]

end Toolsmith.Files
