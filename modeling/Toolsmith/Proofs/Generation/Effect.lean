import Toolsmith.Proofs.Files.Operation
import Toolsmith.Proofs.Generation.Job

/-!
# The effect of a job

A job that never looks at the files does the same whatever they are: from a state of the augmentor
it does a list of operations and then ends in the same way, unless one of the operations fails,
which ends it there. Jobs of such steps are of that kind themselves, and their operations are those
of the steps one after the other.

## Main definitions

* `World.mended`: the same world, where nothing happens to any operation.
* `Job.Does`: the operations that a job does, and how it ends.

## Main statements

* `Job.Does.bind`, `Job.Does.bind_error`: jobs of two steps.
* `Job.Does.files_eq`: the files after a job are those after its operations.
* `Job.Does.mended`: a job that succeeded where something could have happened.
* `Job.Does.of_ne_write`, `Job.Does.exists_error`: a job ends in its own way, unless something
  cannot be written.
-/

namespace Toolsmith.Generation

/-- The same world, where nothing happens to any operation. -/
def World.mended {σ : Type} (w : World σ) : World σ :=
  { w with files := w.files.mended }

namespace Job

open Files (Operation)

variable {σ α β : Type} {fs fs' : Files} {service mid service' : σ} {ops more : List Operation}

/-- From a state of the augmentor a job does some operations, whatever the files are. If they all
succeed, it ends with an outcome and leaves the augmentor in another state; if one fails, it fails
to write there. -/
structure Does (job : Job σ α) (service : σ) (ops : List Operation) (outcome : Except Error α)
    (service' : σ) : Prop where
  /-- All operations succeed. -/
  done : ∀ {fs fs'}, fs.performAll ops = (.ok (), fs') →
    job.perform ⟨fs, service⟩ = (outcome, ⟨fs', service'⟩)
  /-- One of them fails. -/
  failed : ∀ {fs fs' p e}, fs.performAll ops = (.error (p, e), fs') →
    ∃ service', job.perform ⟨fs, service⟩ = (.error (.write p e), ⟨fs', service'⟩)

namespace Does

/-! ### Jobs of several steps -/

/-- A job without operations. -/
theorem of_perform {job : Job σ α} {outcome : Except Error α}
    (h : ∀ fs, job.perform ⟨fs, service⟩ = (outcome, ⟨fs, service'⟩)) :
    job.Does service [] outcome service' where
  done {fs fs'} none := by
    obtain ⟨-, rfl⟩ := Prod.mk.inj none
    exact h fs
  failed none := nomatch none

theorem pure (a : α) (service : σ) : (Pure.pure a : Job σ α).Does service [] (.ok a) service :=
  of_perform fun _ ↦ rfl

/-- After a step comes what follows from its result. -/
theorem bind {x : Job σ α} {f : α → Job σ β} {a : α} {outcome : Except Error β}
    (first : x.Does service ops (.ok a) mid) (rest : (f a).Does mid more outcome service') :
    (x >>= f).Does service (ops ++ more) outcome service' where
  done {fs fs'} whole := by
    rw [Files.performAll_append] at whole
    rcases once : fs.performAll ops with ⟨⟨p, e⟩ | ⟨⟨⟩⟩, fs₁⟩ <;> rw [once] at whole
    · exact nomatch whole
    · exact bind_of_ok (first.done once) (rest.done whole)
  failed {fs fs' p e} whole := by
    rw [Files.performAll_append] at whole
    rcases once : fs.performAll ops with ⟨⟨q, d⟩ | ⟨⟨⟩⟩, fs₁⟩ <;> rw [once] at whole
    · cases whole
      obtain ⟨state, run⟩ := first.failed once
      exact ⟨state, by rw [perform_bind, run]⟩
    · obtain ⟨state, run⟩ := rest.failed whole
      exact ⟨state, bind_of_ok (first.done once) run⟩

/-- Nothing comes after a step that fails. -/
theorem bind_error {x : Job σ α} {e : Error} (first : x.Does service ops (.error e) service')
    (f : α → Job σ β) : (x >>= f).Does service ops (.error e) service' where
  done whole := by rw [perform_bind, first.done whole]
  failed whole := by
    obtain ⟨state, run⟩ := first.failed whole
    exact ⟨state, by rw [perform_bind, run]⟩

/-- A step that is followed by telling something of its result. -/
theorem map {x : Job σ α} {a : α} (h : x.Does service ops (.ok a) service') (f : α → β) :
    (x >>= fun a ↦ Pure.pure (f a)).Does service ops (.ok (f a)) service' := by
  rw [← List.append_nil ops]
  exact h.bind (pure (f a) service')

/-! ### Single steps -/

/-- A step that is one operation. -/
theorem operate (op : Operation) (service : σ) :
    (Job.operate op).Does service [op] (.ok ()) service where
  done {fs fs'} once := by
    obtain ⟨fs₁, made, last⟩ := Files.performAll_cons_eq_ok once
    obtain ⟨-, rfl⟩ := Prod.mk.inj last
    rw [Job.operate, perform_operateFor, made]
    rfl
  failed {fs fs' p e} once := by
    rw [Files.performAll] at once
    rcases made : op.apply fs with ⟨d | ⟨⟨⟩⟩, fs₁⟩ <;> rw [made] at once
    · cases once
      exact ⟨service, by rw [Job.operate, perform_operateFor, made]; rfl⟩
    · cases once

/-- Resolving names does nothing to the files. -/
theorem resolve {resolver : Naming.Resolver σ} {r : Collection.Request}
    {outcome : Except Naming.AugmentError Naming}
    (h : resolver.resolve r service = (outcome, service')) :
    (Job.resolve resolver r).Does service [] (outcome.mapError (.augment (r.name.getD "")))
      service' := by
  refine of_perform fun fs ↦ ?_
  have got : (get : Job σ (World σ)).perform ⟨fs, service⟩ = (.ok ⟨fs, service⟩, ⟨fs, service⟩) :=
    rfl
  refine bind_of_ok got ?_
  rw [h]
  rcases outcome with e | naming <;> rfl

/-! ### What a job leaves behind -/

variable {job : Job σ α} {outcome outcome' : Except Error α} {w' : World σ}

/-- The files after a job are those after its operations, however it ends. -/
theorem files_eq (h : job.Does service ops outcome service')
    (run : job.perform ⟨fs, service⟩ = (outcome', w')) : w'.files = (fs.performAll ops).2 := by
  rcases performed : fs.performAll ops with ⟨⟨p, e⟩ | ⟨⟨⟩⟩, fs'⟩
  · obtain ⟨state, run'⟩ := h.failed performed
    rw [run] at run'
    rw [(Prod.mk.inj run').2]
  · have run' := h.done performed
    rw [run] at run'
    rw [(Prod.mk.inj run').2]

/-- Where nothing fails to be written, all operations succeed and the job ends in its own way. -/
theorem of_ne_write (h : job.Does service ops outcome service')
    (run : job.perform ⟨fs, service⟩ = (outcome', w'))
    (written : ∀ p e, outcome' ≠ .error (.write p e)) :
    fs.performAll ops = (.ok (), w'.files) ∧ outcome' = outcome ∧ w'.service = service' := by
  rcases performed : fs.performAll ops with ⟨⟨p, e⟩ | ⟨⟨⟩⟩, fs'⟩
  · obtain ⟨state, run'⟩ := h.failed performed
    rw [run] at run'
    exact absurd (Prod.mk.inj run').1 (written p e)
  · have run' := h.done performed
    rw [run] at run'
    obtain ⟨rfl, rfl⟩ := Prod.mk.inj run'
    exact ⟨rfl, rfl, rfl⟩

/-- A job that succeeded does the same where nothing can happen to any of its operations. -/
theorem mended {a : α} {w : World σ} (h : job.Does w.service ops outcome service')
    (run : job.perform w = (.ok a, w')) : job.perform w.mended = (.ok a, w'.mended) := by
  obtain ⟨all, rfl, rfl⟩ := h.of_ne_write run nofun
  exact h.done (Files.performAll_mended all)

/-- Where a job fails that would succeed by itself, one of its operations does. -/
theorem exists_error {a : α} {e : Error} (h : job.Does service ops (.ok a) service')
    (run : job.perform ⟨fs, service⟩ = (.error e, w')) :
    ∃ p d, e = .write p d ∧ fs.performAll ops = (.error (p, d), w'.files) := by
  rcases performed : fs.performAll ops with ⟨⟨p, d⟩ | ⟨⟨⟩⟩, fs'⟩
  · obtain ⟨state, run'⟩ := h.failed performed
    rw [run] at run'
    obtain ⟨failed, rfl⟩ := Prod.mk.inj run'
    exact ⟨p, d, Except.error.inj failed, rfl⟩
  · rw [h.done performed] at run
    exact nomatch (Prod.mk.inj run).1

end Does

end Job

end Toolsmith.Generation
