import Toolsmith.Generation.World
import Toolsmith.Proofs.Files.Operation

/-!
# Jobs taken apart

A job that succeeded did so step by step: each of its steps succeeded in the world that the one
before it left behind. What a step did to the world is what the operation on files did, or
nothing but a change of the augmentor's state. A step that is an operation succeeds where its path
leads where it should, if nothing happens to it.

## Main definitions

* `Job.Keeps`: whatever holds of the files holds after a job, also where it fails.

## Main statements

* `Job.bind_eq_ok`, `Job.bind_eq_error`: a job of two steps that succeeded, or failed.
* `Job.perform_operateFor`, `Job.operateFor_eq_ok`: a step that is an operation.
* `Job.writeFile_eq_ok`, `Job.makeDirectories_eq_ok`, `Job.resolve_eq_ok`: what the single steps
  did.
* `Job.writeFile_of_leads`, `Job.makeExecutable_of_leads`, `Job.makeDirectories_of_leads`: when they
  succeed.
-/

namespace Toolsmith.Generation.Job

open Files (Operation)

variable {σ α β : Type} {w w' : World σ}

theorem pure_eq_ok {a b : α} (h : (pure a : Job σ α).perform w = (.ok b, w')) :
    a = b ∧ w = w' := by
  cases h
  exact ⟨rfl, rfl⟩

/-- The second step of a job is done in the world that the first one left, if that succeeded. -/
theorem perform_bind (x : Job σ α) (f : α → Job σ β) (w : World σ) :
    (x >>= f).perform w = match x.perform w with
      | (.ok a, w₁) => (f a).perform w₁
      | (.error e, w₁) => (.error e, w₁) := by
  show (ExceptT.bindCont f (x.perform w).1 : StateM (World σ) _) (x.perform w).2 = _
  rcases x.perform w with ⟨_ | _, w₁⟩ <;> rfl

/-- Both steps of a job that succeeded did so, the second one in the world after the first. -/
theorem bind_eq_ok {x : Job σ α} {f : α → Job σ β} {b : β}
    (h : (x >>= f).perform w = (.ok b, w')) :
    ∃ a w₁, x.perform w = (.ok a, w₁) ∧ (f a).perform w₁ = (.ok b, w') := by
  rw [perform_bind] at h
  rcases hx : x.perform w with ⟨e | a, w₁⟩
  · rw [hx] at h
    cases h
  · rw [hx] at h
    exact ⟨a, w₁, rfl, h⟩

/-- A job of two steps that failed did so in one of them. -/
theorem bind_eq_error {x : Job σ α} {f : α → Job σ β} {e : Error}
    (h : (x >>= f).perform w = (.error e, w')) :
    x.perform w = (.error e, w') ∨
      ∃ a w₁, x.perform w = (.ok a, w₁) ∧ (f a).perform w₁ = (.error e, w') := by
  rw [perform_bind] at h
  rcases hx : x.perform w with ⟨d | a, w₁⟩ <;> rw [hx] at h
  · obtain ⟨failed, rfl⟩ := Prod.mk.inj h
    rw [Except.error.inj failed]
    exact .inl rfl
  · exact .inr ⟨a, w₁, rfl, h⟩

/-- A job goes on with its second step where the first one succeeded. -/
theorem bind_of_ok {x : Job σ α} {f : α → Job σ β} {a : α} {w₁ : World σ}
    {result : Except Error β × World σ} (h : x.perform w = (.ok a, w₁))
    (h' : (f a).perform w₁ = result) : (x >>= f).perform w = result := by
  rw [perform_bind, h]
  exact h'

/-- A job of which something is told succeeded. -/
theorem exists_of_toOption {job : Job σ α} {f : α → β} {b : β}
    (h : (job.perform w).1.toOption.map f = some b) :
    ∃ a w', job.perform w = (.ok a, w') ∧ f a = b := by
  rcases done : job.perform w with ⟨e | a, w'⟩
  · rw [done] at h
    cases h
  · rw [done] at h
    exact ⟨a, w', rfl, Option.some.inj h⟩

/-- Reading a file leaves the world as it is, but for what happens next. -/
theorem perform_readFile (p : Path) (w : World σ) :
    (readFile p : Job σ String).perform w =
      ((w.files.fault?.elim (w.files.read p) fun fault ↦ .error fault.reason).mapError (.read p),
        { w with files := w.files.next }) := by
  have got : (get : Job σ (World σ)).perform w = (.ok w, w) := rfl
  have moved : (modify fun w' ↦ { w' with files := w.files.next } : Job σ PUnit).perform w =
      (.ok ⟨⟩, { w with files := w.files.next }) := rfl
  refine bind_of_ok got (bind_of_ok moved ?_)
  generalize w.files.fault?.elim (w.files.read p) (fun fault ↦ .error fault.reason) = outcome
  rcases outcome with e | text <;> rfl

/-! ### Operations -/

/-- A job that is an operation does what that does, and its failure is told. -/
theorem perform_operateFor (told : Path) (op : Operation) (w : World σ) :
    (operateFor told op : Job σ Unit).perform w =
      ((op.apply w.files).1.mapError (.write told), { w with files := (op.apply w.files).2 }) := by
  have got : (get : Job σ (World σ)).perform w = (.ok w, w) := rfl
  refine bind_of_ok got ?_
  rcases op.apply w.files with ⟨e | ⟨⟨⟩⟩, files⟩ <;> rfl

/-- A step that is an operation succeeds if the operation does. -/
theorem operateFor_eq_ok {told : Path} {op : Operation} :
    (operateFor told op : Job σ Unit).perform w = (.ok (), w') ↔
      op.apply w.files = (.ok (), w'.files) ∧ w'.service = w.service := by
  rw [perform_operateFor]
  obtain ⟨files, service⟩ := w'
  rcases op.apply w.files with ⟨e | ⟨⟨⟩⟩, files'⟩
  · exact iff_of_false nofun nofun
  · simp only [Except.mapError, Prod.mk.injEq, World.mk.injEq, true_and, eq_comm (a := service)]

theorem operateFor_of_ok (told : Path) {op : Operation} {files : Files}
    (h : op.apply w.files = (.ok (), files)) :
    (operateFor told op : Job σ Unit).perform w = (.ok (), { w with files }) :=
  operateFor_eq_ok.2 ⟨h, rfl⟩

/-- A file that was written is in the files. -/
theorem writeFile_eq_ok {p : Path} {text : String}
    (h : (writeFile p text : Job σ Unit).perform w = (.ok (), w')) :
    w.files.Puts w'.files p (.text text) ∧ w'.service = w.service :=
  (operateFor_eq_ok.1 h).imp_left Operation.puts_of_apply

/-- A file that was made executable can be executed, and holds what it held. -/
theorem makeExecutable_eq_ok {p : Path} {content : Files.Content} {x : Bool}
    (h : (makeExecutable p : Job σ Unit).perform w = (.ok (), w'))
    (there : w.files.get? (w.files.locate p) = some (.file content x)) :
    (w.files.Puts w'.files p content ∧
      w'.files.get? (w'.files.locate p) = some (.file content true)) ∧ w'.service = w.service :=
  (operateFor_eq_ok.1 h).imp_left fun made ↦ Operation.marked_of_apply made there

/-- A directory that was made is in the files, and nothing but directories is new. -/
theorem makeDirectories_eq_ok {p : Path}
    (h : (makeDirectories p : Job σ Unit).perform w = (.ok (), w')) :
    (w.files.Grows w'.files ∧ w'.files.Leads p ∧
      w'.files.get? (w.files.locate p) = some .directory) ∧ w'.service = w.service :=
  (operateFor_eq_ok.1 h).imp_left Operation.grows_of_apply

/-- Making a directory that is there changes nothing, if nothing happens. -/
theorem makeDirectories_of_leads {p : Path} (healthy : w.files.faults = [])
    (leads : w.files.Leads p) (there : w.files.get? (w.files.locate p) = some .directory) :
    (makeDirectories p : Job σ Unit).perform w = (.ok (), w) := by
  have whole : Operation.whole w.files (.makeDirectories p) = (.ok (), w.files) :=
    Files.makeDirectories_of_leads leads there
  have same : w.files.mended = w.files := by rw [Files.mended, Files.withFaults, ← healthy]
  have done := Operation.apply_of_whole healthy whole
  rw [same] at done
  exact operateFor_eq_ok.2 ⟨done, rfl⟩

/-- A file is written where its path leads, unless there is a directory or something happens. -/
theorem writeFile_of_leads {p : Path} (healthy : w.files.faults = []) (leads : w.files.Leads p)
    (free : w.files.get? (w.files.locate p) ≠ some .directory) (text : String) :
    ∃ w', (writeFile p text : Job σ Unit).perform w = (.ok (), w') ∧ w'.files.faults = [] := by
  obtain ⟨files, written, whole⟩ := Operation.exists_apply_write healthy leads free (.text text)
  exact ⟨{ w with files }, operateFor_of_ok p written, whole⟩

/-- What stands where a path leads can be made executable, if nothing happens. -/
theorem makeExecutable_of_leads {p : Path} {n : Files.Node} (healthy : w.files.faults = [])
    (leads : w.files.Leads p) (there : w.files.get? (w.files.locate p) = some n) :
    ∃ w', (makeExecutable p : Job σ Unit).perform w = (.ok (), w') ∧ w'.files.faults = [] := by
  obtain ⟨files, made⟩ := Files.makeExecutable_of_get? leads there
  have whole : Operation.whole w.files (.makeExecutable p) = (.ok (), files) := by
    rw [Operation.whole, made]
    rfl
  exact ⟨{ w with files := files.mended },
    operateFor_of_ok p (Operation.apply_of_whole healthy whole), rfl⟩

/-! ### What a job keeps -/

/-- What is true of the files stays true, whether a job succeeds or fails. -/
def Keeps (motive : Files → Prop) (job : Job σ α) : Prop :=
  ∀ w : World σ, motive w.files → motive (job.perform w).2.files

namespace Keeps

variable {motive : Files → Prop}

theorem pure (a : α) : Keeps motive (Pure.pure a : Job σ α) := fun _ h ↦ h

theorem throw (e : Error) : Keeps motive (MonadExcept.throw e : Job σ α) := fun _ h ↦ h

/-- What both steps of a job keep, the job keeps. -/
theorem bind {x : Job σ α} {f : α → Job σ β} (first : Keeps motive x)
    (rest : ∀ a, Keeps motive (f a)) : Keeps motive (x >>= f) := by
  intro w h
  have once := first w h
  rw [perform_bind]
  rcases done : x.perform w with ⟨e | a, w₁⟩ <;> rw [done] at once
  · exact once
  · exact rest a w₁ once

/-- A step that is an operation keeps what the operation does. -/
theorem operateFor {told : Path} {op : Operation}
    (h : ∀ fs, motive fs → motive (op.apply fs).2) :
    Keeps motive (Job.operateFor told op : Job σ Unit) := by
  intro w hw
  rw [perform_operateFor]
  exact h _ hw

end Keeps

/-! ### Names -/

/-- Resolving names leaves the files alone, and depends on the state of the augmentor only. -/
theorem resolve_eq_ok {resolver : Naming.Resolver σ} {r : Collection.Request} {naming : Naming}
    (h : (resolve resolver r).perform w = (.ok naming, w')) :
    resolver.resolve r w.service = (.ok naming, w'.service) ∧ w'.files = w.files := by
  obtain ⟨_, _, got, h⟩ := bind_eq_ok h
  cases got
  rcases resolved : resolver.resolve r w.service with ⟨outcome, service⟩
  rw [resolved] at h
  obtain ⟨_, _, kept, h⟩ := bind_eq_ok h
  cases kept
  cases outcome with
  | error e => cases h
  | ok named =>
    cases h
    exact ⟨rfl, rfl⟩

/-- Names that are resolved are told, and the augmentor is left in its new state. -/
theorem resolve_of_ok {resolver : Naming.Resolver σ} {r : Collection.Request} {naming : Naming}
    {service : σ} (h : resolver.resolve r w.service = (.ok naming, service)) :
    (resolve resolver r).perform w = (.ok naming, { w with service }) := by
  have got : (get : Job σ (World σ)).perform w = (.ok w, w) := rfl
  refine bind_of_ok got ?_
  rw [h]
  rfl

end Toolsmith.Generation.Job
