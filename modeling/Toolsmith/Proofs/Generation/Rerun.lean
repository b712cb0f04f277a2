import Toolsmith.Proofs.Files.Again
import Toolsmith.Proofs.Generation.Serve
import Toolsmith.Proofs.Generation.Writing

/-!
# Generating the same again

What a generation does follows from the collection, from its settings and from the augmentor's
answers, not from what stands in its directory. So a second generation into the same directory, with
the same answers, does once more what the first one did, and that changes nothing: the files of the
first one are in no way of the second, and cause no identifier to be numbered.

## Main definitions

* `Naming.Resolver.answers`: what is resolved for requests one after the other.

## Main statements

* `Walker.Places.exists_of_answers`: the tools follow from the requests and the answers.
* `Generator.generate_again`: a generation that succeeded is repeated without any effect.
-/

namespace Toolsmith

open Collection (Request)

/-- What is resolved for requests one after the other, from a state of the augmentor on, also after
the first failure. -/
def Naming.Resolver.answers {σ : Type} (resolver : Resolver σ) :
    List Request → σ → List (Except AugmentError Naming)
  | [], _ => []
  | r :: rs, s => (resolver.resolve r s).1 :: answers resolver rs (resolver.resolve r s).2

namespace Generation

variable {σ : Type}

/-- The tools follow from the requests and from what is resolved for them, not from the state that
the augmentor is in. -/
theorem Walker.Places.exists_of_answers {walker : Walker σ} {used : List String}
    {s service' t : σ} {requests : List (Request × List String)} {placed : List Placement}
    (h : walker.Places used s requests placed service')
    (same : walker.resolver.answers (requests.map (·.1)) t =
      walker.resolver.answers (requests.map (·.1)) s) :
    ∃ t', walker.Places used t requests placed t' := by
  induction h generalizing t with
  | nil => exact ⟨t, .nil⟩
  | @cons _ _ _ _ r _ _ naming _ _ resolved compiled _ ih =>
    obtain ⟨first, rest⟩ := List.cons.inj same
    rcases resolved' : walker.resolver.resolve r t with ⟨outcome, mid⟩
    simp only [resolved, resolved'] at first rest
    obtain ⟨t', later⟩ := ih rest
    rw [first] at resolved'
    exact ⟨t', .cons resolved' compiled later⟩

namespace Generator

/-- Generating the same again is idempotent: where a generation into a directory succeeded, whatever
was there before, a second one into the same directory with the same answers of the augmentor
succeeds if nothing happens to its operations, reports the same and leaves all files exactly as the
first one left them, with what they hold and whether they can be executed. Its walk tells the same
as the first one, so no identifier is numbered because of a file that the first run wrote. -/
theorem generate_again {g : Generator σ} {c : Collection} {directory : Path} {w w' : World σ}
    {report : Report} {service : σ}
    (run : (g.generate c (.directory directory)).perform w = (.ok report, w'))
    (same : g.resolver.answers ((visits c.items).map (·.1)) service =
      g.resolver.answers ((visits c.items).map (·.1)) w.service) :
    (∃ service', (g.generate c (.directory directory)).perform ⟨w'.files.mended, service⟩ =
      (.ok report, ⟨w'.files.mended, service'⟩)) ∧
    ∃ s w₁ w₂,
      (do Job.makeDirectories directory
          g.walkCollection c (directory.child toolsDirectory)).perform w = (.ok s, w₁) ∧
      (do Job.makeDirectories directory
          g.walkCollection c (directory.child toolsDirectory)).perform ⟨w'.files.mended, service⟩ =
        (.ok s, w₂) ∧
      report.tools = s.artifacts.map (·.name) := by
  obtain ⟨placed, service', ops, places, -, reported, does, done⟩ := exists_does_of_ok run
  obtain ⟨after, places'⟩ := places.exists_of_answers same
  have again := Files.performAll_again done
  have finished := (does _ _ places').done again
  -- The operations of the walk come first in both.
  rw [List.append_assoc] at done again
  obtain ⟨_, walked, -⟩ := Files.performAll_append_eq_ok done
  obtain ⟨_, walked', -⟩ := Files.performAll_append_eq_ok again
  refine ⟨⟨after, finished⟩, _, _, _, (g.does_walk directory places).done walked,
    (g.does_walk directory places').done walked', ?_⟩
  rw [reported]
  rfl

open CommandLine.Serve in
/-- The second pet keeps its number. -/
theorem generate_again_twoPets :
    ∃ (r : Report) (w' : World Unit),
      (numbering.generate twoPets (.directory ⟨"out", []⟩)).perform ⟨{}, ()⟩ = (.ok r, w') ∧
      (numbering.generate twoPets (.directory ⟨"out", []⟩)).perform w'.mended =
        (.ok r, w'.mended) ∧
      r.tools = ["pet", "pet2"] := by
  obtain ⟨r, w', run, tools⟩ := exists_generate_twoPets
  obtain ⟨⟨⟨⟩, again⟩, -⟩ := @generate_again Unit _ _ _ _ _ _ () run rfl
  exact ⟨r, w', run, again, tools⟩

end Generator

end Generation

end Toolsmith
