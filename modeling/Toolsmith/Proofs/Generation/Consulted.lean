import Toolsmith.Proofs.Generation.Course

/-!
# What an augmentor is asked

An augmentor is watched by letting it note its calls beside its state, which changes nothing else.
It is asked for the requests that lack a name or a description, in the order of the walk and once
each: for all of them, unless one of its answers is a failure that ends the walk. A request for
which it was not asked, or for which it failed, is named as if there were no augmentor.

## Main definitions

* `Naming.Augmentor.noted`, `Walker.noted`: an augmentor and a walk that note the calls.
* `Naming.Consults`: what is asked for a request, and what is resolved from the answer.
* `Generation.Consulted`: what was asked for the requests of some tools.
* `Generation.Footprint`: what a walk asked and what it left behind.

## Main statements

* `Naming.Resolver.resolve_noted`: watching changes nothing, and notes what is asked.
* `Consulted.requests_eq`: each request that lacks something was asked for once, in order.
* `Walker.walkCollection_consulted`: what a walk asks and what becomes of the answers.
-/

namespace Toolsmith

open Collection (Item Request)

variable {σ : Type}

namespace Naming

/-! ### Calls that are noted -/

/-- A request that an augmentor was asked for, with its answer. -/
abbrev Call := Request × Except AugmentError Suggestion

/-- An augmentor that notes its calls behind what has been noted before. -/
def Augmentor.noted (a : Augmentor σ) : Augmentor (σ × List Call) where
  suggest r state :=
    ((a.suggest r state.1).1, (a.suggest r state.1).2, state.2 ++ [(r, (a.suggest r state.1).1)])

/-- A resolver whose augmentor notes its calls. -/
def Resolver.noted (resolver : Resolver σ) : Resolver (σ × List Call) where
  augmentor := resolver.augmentor.map (·.noted)
  policy := resolver.policy

/-- What an augmentor is asked for a request, and what is resolved from its answer. -/
inductive Consults (policy : FailurePolicy) (r : Request) :
    List Call → Except AugmentError Naming → Prop
  /-- Nothing is asked for a request that lacks nothing. -/
  | complete (lacks : isIncomplete r = false) : Consults policy r [] (.ok (ofRequest r))
  /-- A suggestion is followed. -/
  | suggested (lacks : isIncomplete r = true) (s : Suggestion) :
      Consults policy r [(r, .ok s)] (.ok (ofSuggestion r s))
  /-- A failure is passed on. -/
  | aborted (lacks : isIncomplete r = true) (e : AugmentError) (aborts : policy = .abort) :
      Consults policy r [(r, .error e)] (.error e)
  /-- After a failure the names follow from the request. -/
  | fallen (lacks : isIncomplete r = true) (e : AugmentError) (falls : policy = .fallback) :
      Consults policy r [(r, .error e)] (.ok (ofRequest r))

/-- Watching an augmentor changes nothing, and what is noted is what it is asked. -/
theorem Resolver.resolve_noted {resolver : Resolver σ} {augmentor : Augmentor σ} {r : Request}
    {s : σ} {calls : List Call} {outcome : Except AugmentError Naming} {after : σ × List Call}
    (asks : resolver.augmentor = some augmentor)
    (resolved : resolver.noted.resolve r (s, calls) = (outcome, after)) :
    resolver.resolve r s = (outcome, after.1) ∧
      ∃ new, after.2 = calls ++ new ∧ Consults resolver.policy r new outcome := by
  have asks' : resolver.noted.augmentor = some augmentor.noted := congrArg (Option.map _) asks
  have same : resolver.noted.policy = resolver.policy := rfl
  simp only [resolve, asks, asks', same, Augmentor.noted] at resolved ⊢
  cases lacks : isIncomplete r with
  | false =>
    simp only [lacks, Bool.false_eq_true, if_false] at resolved ⊢
    obtain ⟨rfl, rfl⟩ := Prod.mk.inj resolved
    exact ⟨rfl, [], (List.append_nil calls).symm, .complete lacks⟩
  | true =>
    simp only [lacks, if_true] at resolved ⊢
    rcases answered : augmentor.suggest r s with ⟨e | suggestion, s'⟩ <;>
      simp only [answered] at resolved ⊢
    · cases policy : resolver.policy <;> simp only [policy] at resolved ⊢ <;>
        obtain ⟨rfl, rfl⟩ := Prod.mk.inj resolved
      · exact ⟨rfl, _, rfl, .aborted lacks e rfl⟩
      · exact ⟨rfl, _, rfl, .fallen lacks e rfl⟩
    · obtain ⟨rfl, rfl⟩ := Prod.mk.inj resolved
      exact ⟨rfl, _, rfl, .suggested lacks suggestion⟩

namespace Consults

variable {policy : FailurePolicy} {r : Request} {calls : List Call}
  {outcome : Except AugmentError Naming} {n : Naming} {e : AugmentError}

theorem requests_eq (h : Consults policy r calls outcome) :
    calls.map (·.1) = [r].filter isIncomplete := by
  obtain lacks | ⟨lacks, -⟩ | ⟨lacks, -, -⟩ | ⟨lacks, -, -⟩ := h <;> simp [lacks]

/-- Where failures are passed on and there is a name, there was none. -/
theorem exists_suggestion (h : Consults policy r calls outcome) (named : outcome = .ok n)
    (aborts : policy = .abort) : ∀ call ∈ calls, ∃ s, call.2 = .ok s := by
  obtain _ | ⟨-, s⟩ | _ | ⟨-, -, falls⟩ := h
  · exact fun _ h ↦ absurd h List.not_mem_nil
  · exact List.forall_mem_singleton.2 ⟨s, rfl⟩
  · exact nomatch named
  · exact nomatch aborts.symm.trans falls

/-- Without a suggestion the names follow from the request. -/
theorem naming_eq (h : Consults policy r calls outcome) (named : outcome = .ok n)
    (fails : ∀ call ∈ calls, ∃ e, call.2 = .error e) : n = ofRequest r := by
  obtain _ | ⟨-, s⟩ | _ | _ := h
  · exact (Except.ok.inj named).symm
  · obtain ⟨e, he⟩ := fails _ List.mem_cons_self
    exact nomatch he
  · exact nomatch named
  · exact (Except.ok.inj named).symm

/-- Where there is no name, a failure was passed on. -/
theorem of_error (h : Consults policy r calls outcome) (failed : outcome = .error e) :
    policy = .abort ∧ isIncomplete r = true ∧ calls = [(r, .error e)] := by
  obtain _ | _ | ⟨lacks, d, aborts⟩ | _ := h
  · exact nomatch failed
  · exact nomatch failed
  · obtain rfl := Except.error.inj failed
    exact ⟨aborts, lacks, rfl⟩
  · exact nomatch failed

end Consults

end Naming

namespace Generation

open Naming (Call Consults FailurePolicy isIncomplete ofRequest)

/-- A walk whose augmentor notes its calls. -/
def Walker.noted (walker : Walker σ) : Walker (σ × List Call) where
  resolver := walker.resolver.noted
  collision := walker.collision

/-! ### Requests one after the other -/

/-- What an augmentor was asked for the requests of some tools, one after the other, which are named
by its answers. -/
inductive Consulted (policy : FailurePolicy) : List Placement → List Call → Prop
  /-- For no tools it was not asked. -/
  | nil : Consulted policy [] []
  /-- It was asked for the first request before the others. -/
  | cons {p : Placement} {placed : List Placement} {new calls : List Call}
      (first : Consults policy p.request new (.ok p.naming))
      (later : Consulted policy placed calls) : Consulted policy (p :: placed) (new ++ calls)

namespace Consulted

variable {policy : FailurePolicy} {placed : List Placement} {calls : List Call}

/-- An augmentor was asked for each request that lacks something, once and in order, and for no
other one. -/
theorem requests_eq (h : Consulted policy placed calls) :
    calls.map (·.1) = (placed.map (·.request)).filter isIncomplete := by
  induction h with
  | nil => rfl
  | cons first _ ih =>
    rw [List.map_append, first.requests_eq, ih, List.map_cons, ← List.filter_append,
      List.singleton_append]

/-- Where failures are passed on, there was none. -/
theorem exists_suggestion (h : Consulted policy placed calls) (aborts : policy = .abort) :
    ∀ call ∈ calls, ∃ s, call.2 = .ok s := by
  induction h with
  | nil => exact fun _ h ↦ absurd h List.not_mem_nil
  | cons first _ ih => exact List.forall_mem_append.2 ⟨first.exists_suggestion rfl aborts, ih⟩

/-- Where it always failed, all requests are named as if there were no augmentor. -/
theorem naming_eq (h : Consulted policy placed calls)
    (fails : ∀ call ∈ calls, ∃ e, call.2 = .error e) :
    ∀ p ∈ placed, p.naming = ofRequest p.request := by
  induction h with
  | nil => exact fun _ h ↦ absurd h List.not_mem_nil
  | cons first _ ih =>
    obtain ⟨here, rest⟩ := List.forall_mem_append.1 fails
    exact List.forall_mem_cons.2 ⟨first.naming_eq rfl here, ih rest⟩

end Consulted

namespace Walker

variable {walker : Walker σ} {augmentor : Naming.Augmentor σ} {used : List String}
  {requests : List (Request × List String)} {placed : List Placement}

/-- Watching an augmentor leaves the tools as they are. -/
theorem Places.of_noted {state state' : σ × List Call}
    (asks : walker.resolver.augmentor = some augmentor)
    (h : walker.noted.Places used state requests placed state') :
    walker.Places used state.1 requests placed state'.1 ∧
      ∃ new, state'.2 = state.2 ++ new ∧ Consulted walker.resolver.policy placed new := by
  induction h with
  | nil => exact ⟨.nil, [], (List.append_nil _).symm, .nil⟩
  | cons resolved compiled _ ih =>
    obtain ⟨resolved', new, noted, first⟩ := Naming.Resolver.resolve_noted asks resolved
    obtain ⟨places, more, noted', later⟩ := ih
    refine ⟨.cons resolved' compiled places, new ++ more, ?_, .cons first later⟩
    rw [noted', noted, List.append_assoc]

/-- Watching an augmentor leaves the request as it is that a walk ends with. The failure was passed
on, and it was the last of what the augmentor was asked. -/
theorem Stops.of_noted {state state' : σ × List Call} {r : Request} {e : Naming.AugmentError}
    (asks : walker.resolver.augmentor = some augmentor)
    (h : walker.noted.Stops used state requests placed r e state') :
    walker.Stops used state.1 requests placed r e state'.1 ∧
      walker.resolver.policy = .abort ∧ isIncomplete r = true ∧
      ∃ new, state'.2 = state.2 ++ (new ++ [(r, .error e)]) ∧
        Consulted walker.resolver.policy placed new := by
  obtain ⟨mid, places, failed⟩ := h.ends
  obtain ⟨places', new, noted, consulted⟩ := Places.of_noted asks places
  obtain ⟨failed', last, noted', ends⟩ := Naming.Resolver.resolve_noted asks failed
  obtain ⟨aborts, lacks, rfl⟩ := ends.of_error rfl
  refine ⟨⟨h.split, mid.1, places', failed'⟩, aborts, lacks, new, ?_, consulted⟩
  rw [noted', noted, List.append_assoc]

/-- Tools whose requests are named as if there were no augmentor are those of a walk without one. -/
theorem Places.without {τ : Type} {s s' : σ}
    (h : walker.Places used s requests placed s')
    (plain : ∀ p ∈ placed, p.naming = ofRequest p.request) (t : τ) :
    ({ collision := walker.collision } : Walker τ).Places used t requests placed t := by
  induction h with
  | nil => exact .nil
  | @cons _ _ _ _ r _ _ naming _ _ _ compiled _ ih =>
    obtain ⟨named, rest⟩ := List.forall_mem_cons.1 plain
    obtain rfl : naming = ofRequest r := named
    exact .cons rfl compiled (ih rest)

end Walker

/-! ### What a walk asks -/

/-- What a walk into an empty directory asked its augmentor, and left behind, that came to some
requests: they led to tools, for which the calls were made, and the files of the tools stand below
the directory, and no others. -/
structure Footprint (walker : Walker σ) (root : Path) (service : σ) (files : Files)
    (requests : List (Request × List String)) (placed : List Placement) (calls : List Call) :
    Prop where
  /-- The requests led to the tools. -/
  places : ∃ service', walker.Places [] service requests placed service'
  /-- The tools are named by the answers to the calls. -/
  consulted : Consulted walker.resolver.policy placed calls
  /-- There was one call for each request that lacks something, in order. -/
  asked : calls.map (·.1) = (requests.map (·.1)).filter isIncomplete
  /-- The files of the tools are there. -/
  stored : Stored files root (Summary.putAll [] (placed.map (·.file root)))

namespace Walker

variable {walker : Walker σ} {augmentor : Naming.Augmentor σ} {c : Collection} {root : Path}
  {w : World σ} {outcome : Except Error Summary} {w' : World (σ × List Call)}
  {placed : List Placement}

/-- The footprint of the nodes that a walk came to. -/
theorem Places.footprint {service service' : σ} {files : Files} {nodes : List (Item × List String)}
    {calls : List Call}
    (places : walker.Places [] service (nodes.filterMap visit?) placed service')
    (consulted : Consulted walker.resolver.policy placed calls)
    (empty : w.files.EmptyBelow root)
    (done : w.files.performAll (.makeDirectories root :: operations root nodes placed) =
      (.ok (), files)) :
    Footprint walker root service files (nodes.filterMap visit?) placed calls := by
  refine ⟨⟨service', places⟩, consulted, ?_, places.stored empty done⟩
  rw [consulted.requests_eq, ← places.map_visit, List.map_map]
  rfl

/-- A walk whose calls are noted, and that came to all requests. Every walk whose requests lead to
the same tools does the same. -/
theorem Places.noted_eq {state' : σ × List Call}
    (asks : walker.resolver.augmentor = some augmentor) (empty : w.files.EmptyBelow root)
    (places : walker.noted.Places [] (w.service, []) (visits c.items) placed state')
    (run : (walker.noted.walkCollection c root).perform ⟨w.files, (w.service, [])⟩ = (outcome, w'))
    (written : ∀ p e, outcome ≠ .error (.write p e)) :
    (∃ s, outcome = .ok s) ∧ walker.Places [] w.service (visits c.items) placed w'.service.1 ∧
      Footprint walker root w.service w'.files (visits c.items) placed w'.service.2 ∧
      ∀ {τ : Type} {other : Walker τ} {t t' : τ}, other.Places [] t (visits c.items) placed t' →
        (other.walkCollection c root).perform ⟨w.files, t⟩ = (outcome, ⟨w'.files, t'⟩) := by
  obtain ⟨done, rfl, rfl⟩ := (does_walkCollection root places).of_ne_write run written
  obtain ⟨plain, new, noted, consulted⟩ := Places.of_noted asks places
  rw [List.nil_append] at noted
  rw [noted]
  exact ⟨⟨_, rfl⟩, plain, plain.footprint consulted empty done,
    fun others ↦ (does_walkCollection root others).done done⟩

/-- A walk whose calls are noted, and that ended with a request whose names were not resolved. -/
theorem Stops.noted_eq {r : Request} {e : Naming.AugmentError} {state' : σ × List Call}
    (asks : walker.resolver.augmentor = some augmentor) (empty : w.files.EmptyBelow root)
    (stops : walker.noted.Stops [] (w.service, []) (visits c.items) placed r e state')
    (run : (walker.noted.walkCollection c root).perform ⟨w.files, (w.service, [])⟩ = (outcome, w'))
    (written : ∀ p e, outcome ≠ .error (.write p e)) :
    (walker.walkCollection c root).perform w = (outcome, ⟨w'.files, w'.service.1⟩) ∧
      outcome = .error (.augment (r.name.getD "") e) ∧
      walker.resolver.policy = .abort ∧ isIncomplete r = true ∧
      ∃ earlier, w'.service.2 = earlier ++ [(r, .error e)] ∧
        Footprint walker root w.service w'.files (placed.map (·.visit)) placed earlier := by
  obtain ⟨before, folders, after, split, payload, first⟩ := stops.exists_nodes
  obtain ⟨done, rfl, rfl⟩ :=
    (stops.does_walkCollection split payload first root).of_ne_write run written
  obtain ⟨plain, aborts, lacks, earlier, noted, consulted⟩ := Stops.of_noted asks stops
  obtain ⟨mid, places, -⟩ := plain.ends
  rw [List.nil_append] at noted
  rw [← first] at places ⊢
  exact ⟨(plain.does_walkCollection split payload first root).done done, rfl, aborts, lacks,
    earlier, noted, places.footprint consulted empty done⟩

/-- What a walk into an empty directory asks its augmentor, whatever the answers are, and what
becomes of them, where nothing fails to be written. Noting the calls changes nothing. The calls are
those for the requests with a payload that lack a name or a description, in the order of the walk
and once each.

Where failures are passed on, the calls end with the first one that fails, and the walk fails if and
only if there is one: with that failure and the name of the request, and with the files of the
requests before on the disk, and no others. Where failures are not passed on, the walk succeeds and
all such requests are asked for; those that were not asked for, or whose call failed, are named by
themselves, and if all calls failed, the walk does the same as one without an augmentor. -/
theorem walkCollection_consulted (asks : walker.resolver.augmentor = some augmentor)
    (empty : w.files.EmptyBelow root)
    (run : (walker.noted.walkCollection c root).perform ⟨w.files, (w.service, [])⟩ = (outcome, w'))
    (written : ∀ p e, outcome ≠ .error (.write p e)) :
    (walker.walkCollection c root).perform w = (outcome, ⟨w'.files, w'.service.1⟩) ∧
    (walker.resolver.policy = .abort →
      ((∃ error, outcome = .error error) ↔ ∃ call ∈ w'.service.2, ∃ e, call.2 = .error e) ∧
      (∀ s, outcome = .ok s →
        ∃ placed, Footprint walker root w.service w'.files (visits c.items) placed w'.service.2) ∧
      ∀ error, outcome = .error error →
        ∃ before r folders after placed earlier e,
          visits c.items = before ++ (r, folders) :: after ∧ isIncomplete r = true ∧
          w'.service.2 = earlier ++ [(r, .error e)] ∧ (∀ call ∈ earlier, ∃ s, call.2 = .ok s) ∧
          error = .augment (r.name.getD "") e ∧
          Footprint walker root w.service w'.files before placed earlier) ∧
    (walker.resolver.policy = .fallback →
      ∃ s placed, outcome = .ok s ∧
        Footprint walker root w.service w'.files (visits c.items) placed w'.service.2 ∧
        ((∀ call ∈ w'.service.2, ∃ e, call.2 = .error e) →
          ∀ (τ : Type) (u : World τ), u.files = w.files →
            (({ collision := walker.collision } : Walker τ).walkCollection c root).perform u =
              (outcome, ⟨w'.files, u.service⟩))) := by
  rcases walker.noted.places_or_stops [] (w.service, []) (isSome_of_mem_visits c.items) with
    ⟨placed, state', places⟩ | ⟨placed, r, e, state', stops⟩
  · obtain ⟨⟨s, rfl⟩, plain, footprint, same⟩ := places.noted_eq asks empty run written
    refine ⟨same plain, fun aborts ↦ ⟨?_, fun _ _ ↦ ⟨placed, footprint⟩, nofun⟩, fun _ ↦
      ⟨s, placed, rfl, footprint, fun fails τ u files ↦ ?_⟩⟩
    · refine iff_of_false nofun ?_
      rintro ⟨call, hc, e, failed⟩
      obtain ⟨s, suggested⟩ := footprint.consulted.exists_suggestion aborts call hc
      exact nomatch failed.symm.trans suggested
    · have without := plain.without (footprint.consulted.naming_eq fails) u.service
      have run := same without
      rwa [← files] at run
  · obtain ⟨plain, rfl, aborts, lacks, earlier, noted, footprint⟩ :=
      stops.noted_eq asks empty run written
    obtain ⟨folders, after, split⟩ := stops.split
    refine ⟨plain, fun _ ↦ ⟨iff_of_true ⟨_, rfl⟩ ?_, nofun, fun error failed ↦ ?_⟩, fun falls ↦ ?_⟩
    · exact ⟨(r, .error e), noted ▸ List.mem_append_right _ List.mem_cons_self, e, rfl⟩
    · exact ⟨_, r, folders, after, placed, earlier, e, split, lacks, noted,
        footprint.consulted.exists_suggestion aborts, (Except.error.inj failed).symm, footprint⟩
    · exact nomatch aborts.symm.trans falls

/-- An augmentor that answers once, and then is gone. -/
def onceAnswering : Naming.Augmentor Nat where
  suggest _ n := (if n = 0 then .ok ⟨"Tide table", ""⟩ else .error (.request "gone"), n + 1)

/-- A request that lacks nothing, one without a name, one that makes no tool, one without a
description in a folder, and one without anything behind it. -/
def harbour : Collection where
  items :=
    [.request { name := some "moon", description := some "Its phase.", payload := some {} },
      .request { description := some "High and low.", payload := some {} }, .request {},
      .folder (some "sky") [.request { name := some "weather", payload := some {} }],
      .request { payload := some {} }]

/-- The walk of a harbour whose calls are noted. -/
def harbourWalk : Except Error Summary × World (Nat × List Call) :=
  (walkCollection (noted { resolver := { augmentor := some onceAnswering } }) harbour
    ⟨"out", []⟩).perform ⟨{}, (0, [])⟩

theorem exists_harbourWalk : ∃ w' : World (Nat × List Call),
    harbourWalk = (.error (.augment "weather" (.request "gone")), w') ∧
      w'.service.2.map (·.1.name) = [none, some "weather"] ∧ w'.service.1 = 2 := by
  have failed : errorOf? harbourWalk.1 = some (.augment "weather" (.request "gone")) := by
    decide +kernel
  have names : harbourWalk.2.service.2.map (·.1.name) = [none, some "weather"] := by
    decide +kernel
  have count : harbourWalk.2.service.1 = 2 := by decide +kernel
  rcases walk : harbourWalk with ⟨e | s, w'⟩ <;> rw [walk] at failed names count
  · obtain rfl := Option.some.inj failed
    exact ⟨w', rfl, names, count⟩
  · exact nomatch failed

/-- The augmentor is asked for the tides and for the weather, and then no more. -/
theorem walkCollection_consulted_harbour :
    ∃ (w' : World (Nat × List Call)) (earlier : List Call) (r : Request),
      harbourWalk = (.error (.augment "weather" (.request "gone")), w') ∧
      (walkCollection { resolver := { augmentor := some onceAnswering } } harbour
        ⟨"out", []⟩).perform ⟨{}, 0⟩ =
          (.error (.augment "weather" (.request "gone")), ⟨w'.files, 2⟩) ∧
      w'.service.2.map (·.1.name) = [none, some "weather"] ∧
      w'.service.2 = earlier ++ [(r, .error (.request "gone"))] := by
  obtain ⟨w', walk, names, count⟩ := exists_harbourWalk
  have empty : Files.EmptyBelow {} ⟨"out", []⟩ := fun _ _ ↦ rfl
  obtain ⟨plain, aborts, -⟩ := walkCollection_consulted (w := ⟨{}, 0⟩) rfl empty walk nofun
  obtain ⟨-, -, ends⟩ := aborts rfl
  obtain ⟨_, r, _, _, _, earlier, e, -, -, calls, -, same, -⟩ := ends _ rfl
  obtain ⟨-, rfl⟩ : _ ∧ .request "gone" = e := by simpa using same
  rw [count] at plain
  exact ⟨w', earlier, r, walk, plain, names, calls⟩

end Walker

end Generation

end Toolsmith
