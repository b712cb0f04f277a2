import Toolsmith.Proofs.History
import Toolsmith.Proofs.Server.Session

/-!
# Sessions in the order of their activity

What a store holds is told by what has been done to it. A session is active when it begins and
whenever it is touched with success. It is open until it is closed or evicted, and it expires by
being idle. After every run of operations the store holds each open session with the time of its
last activity, those aside that have expired.

The invariant that carries this says nothing of the order of times. Only what has expired once has
to be expired later on, so that a session that was dropped for it is not missed.

## Main definitions

* `SessionStore.run`, `SessionStore.steps`: what several operations leave, and the steps they take.
* `SessionStore.LastActive`, `SessionStore.Open`, `SessionStore.Live`: what the history of a
  session says of it.
* `SessionStore.Records`: a store that agrees with its history.
* `SessionStore.Recency`: what holds of the store after a run.

## Main statements

* `SessionStore.records_run`: every store agrees with its history.
* `SessionStore.run_bounded_recency`: a store is a bounded record of the sessions active last.
-/

namespace Toolsmith.Server.SessionStore

/-! ### Runs -/

/-- An operation at a time. -/
structure Event where
  /-- The time. -/
  now : Nat
  /-- The operation. -/
  operation : Operation
deriving DecidableEq

/-- An operation at a time, on a store. -/
structure Step extends Event where
  /-- The store before the operation. -/
  store : SessionStore

/-- The store that several operations leave. -/
def run (s : SessionStore) (events : List Event) : SessionStore :=
  events.foldl (fun s e ↦ (s.perform e.now e.operation).2) s

/-- The steps of several operations one after the other. -/
def steps (s : SessionStore) : List Event → List Step
  | [] => []
  | e :: events => ⟨e, s⟩ :: steps (s.perform e.now e.operation).2 events

variable {s : SessionStore} {ks : List Step} {k : Step} {events : List Event} {e : Event}
  {now a b : Nat} {id : String}

/-- The last operation of a run is done on the store that the others left. -/
theorem run_append_singleton (s : SessionStore) (events : List Event) (e : Event) :
    s.run (events ++ [e]) = ((s.run events).perform e.now e.operation).2 := by
  rw [run, List.foldl_append]
  rfl

/-- The step of the last operation comes last. -/
theorem steps_append_singleton (s : SessionStore) (events : List Event) (e : Event) :
    s.steps (events ++ [e]) = s.steps events ++ [⟨e, s.run events⟩] := by
  induction events generalizing s with
  | nil => rfl
  | cons d events ih => exact congrArg (_ :: ·) (ih _)

/-- There is one step for each operation. -/
theorem map_toEvent_steps (s : SessionStore) (events : List Event) :
    (s.steps events).map Step.toEvent = events := by
  induction events generalizing s with
  | nil => rfl
  | cons d events ih => exact congrArg (d :: ·) (ih _)

theorem idleTimeout_run (s : SessionStore) (events : List Event) :
    (s.run events).idleTimeout = s.idleTimeout := by
  induction events generalizing s with
  | nil => rfl
  | cons e events ih => exact (ih _).trans (idleTimeout_perform s e.now e.operation)

theorem limit_run (s : SessionStore) (events : List Event) : (s.run events).limit = s.limit := by
  induction events generalizing s with
  | nil => rfl
  | cons e events ih => exact (ih _).trans (limit_perform s e.now e.operation)

/-- A run keeps a store sound. -/
theorem Sound.run (h : s.Sound) (events : List Event) : (s.run events).Sound := by
  induction events generalizing s with
  | nil => exact h
  | cons e events ih => exact ih (h.perform e.now e.operation)

/-! ### What the history says of a session -/

namespace Step

/-- What the operation answers. -/
def answer (k : Step) : Bool :=
  (k.store.perform k.now k.operation).1

/-- The store after the operation. -/
def after (k : Step) : SessionStore :=
  (k.store.perform k.now k.operation).2

/-- Whether the session begins, or is touched with success. -/
def Renews (k : Step) (id : String) : Prop :=
  k.operation = .start id ∨ k.operation = .touch id ∧ k.answer = true

/-- Whether the session makes room for another one: the store holds no fewer sessions than its
limit that have not expired, none of them has been idle for longer, and it is held no more. -/
structure Evicts (k : Step) (id : String) : Prop where
  /-- Another session begins. -/
  starts : ∃ new, k.operation = .start new
  /-- There are as many sessions as the limit. -/
  full : k.store.limit ≤ (k.store.alive k.now).length
  /-- The session is one of them, and has been idle longest. -/
  oldest : ∃ a, (id, a) ∈ k.store.alive k.now ∧ ∀ e ∈ k.store.alive k.now, a ≤ e.2
  /-- The session is held no more. -/
  dropped : id ∉ k.after.lastActive.names

/-- Whether the session is closed or evicted. -/
def Ends (k : Step) (id : String) : Prop :=
  k.operation = .close id ∨ k.Evicts id

end Step

/-- Whether the last activity of a session was at a time. -/
def LastActive (ks : List Step) (id : String) (a : Nat) : Prop :=
  Stands (fun k ↦ k.Renews id ∧ k.now = a) (·.Renews id) ks

/-- Whether a session has begun, and has neither been closed nor evicted since. -/
def Open (ks : List Step) (id : String) : Prop :=
  Stands (·.operation = .start id) (·.Ends id) ks

/-- Whether a session has been idle for a timeout. -/
def Expired (timeout : Nat) (ks : List Step) (now : Nat) (id : String) : Prop :=
  ∃ a, LastActive ks id a ∧ timeout ≤ now - a

/-- Whether a session has begun, and has neither been closed nor evicted nor expired since. -/
def Live (timeout : Nat) (ks : List Step) (now : Nat) (id : String) : Prop :=
  Open ks id ∧ ¬ Expired timeout ks now id

/-- A session is open after a step that begins it, or if it was open and the step does not end
it. -/
theorem open_append_singleton :
    Open (ks ++ [k]) id ↔ k.operation = .start id ∨ Open ks id ∧ ¬ k.Ends id :=
  stands_append_singleton

/-- A step that renews a session is its last activity. -/
theorem lastActive_of_renews (h : k.Renews id) : LastActive (ks ++ [k]) id a ↔ k.now = a := by
  refine stands_append_singleton.trans ⟨?_, fun ha ↦ .inl ⟨h, ha⟩⟩
  rintro (⟨-, ha⟩ | ⟨-, idle⟩)
  · exact ha
  · exact absurd h idle

/-- Any other step leaves its last activity as it was. -/
theorem lastActive_of_not_renews (h : ¬ k.Renews id) :
    LastActive (ks ++ [k]) id a ↔ LastActive ks id a := by
  refine stands_append_singleton.trans ⟨?_, fun ha ↦ .inr ⟨ha, h⟩⟩
  rintro (⟨renewed, -⟩ | ⟨ha, -⟩)
  · exact absurd renewed h
  · exact ha

/-- A session has one time of its last activity. -/
theorem LastActive.unique (ha : LastActive ks id a) (hb : LastActive ks id b) : a = b := by
  induction ks using List.reverseRecOn with
  | nil => exact absurd ha not_stands_nil
  | append_singleton ks k ih =>
    by_cases renewed : k.Renews id
    · rw [← (lastActive_of_renews renewed).1 ha, (lastActive_of_renews renewed).1 hb]
    · exact ih ((lastActive_of_not_renews renewed).1 ha) ((lastActive_of_not_renews renewed).1 hb)

/-- A session that has begun has been active. -/
theorem Open.exists_lastActive (h : Open ks id) : ∃ a, LastActive ks id a := by
  induction ks using List.reverseRecOn with
  | nil => exact absurd h not_stands_nil
  | append_singleton ks k ih =>
    by_cases renewed : k.Renews id
    · exact ⟨k.now, (lastActive_of_renews renewed).2 rfl⟩
    · rcases open_append_singleton.1 h with started | ⟨earlier, -⟩
      · exact absurd (.inl started) renewed
      · obtain ⟨a, ha⟩ := ih earlier
        exact ⟨a, (lastActive_of_not_renews renewed).2 ha⟩

/-! ### Stores agree with their history -/

/-- Whether a store holds the open sessions of a history with the times of their last activity,
those aside that have been found expired. -/
structure Records (ks : List Step) (s : SessionStore) : Prop where
  /-- The times are those of the last activity. -/
  lastActive : ∀ {id a}, (id, a) ∈ s.lastActive → LastActive ks id a
  /-- The sessions are open. -/
  isOpen : ∀ {id a}, (id, a) ∈ s.lastActive → Open ks id
  /-- An open session is held, unless it had expired at some step. -/
  held : ∀ {id a}, Open ks id → LastActive ks id a →
    (id, a) ∈ s.lastActive ∨ ∃ k ∈ ks, s.idleTimeout ≤ k.now - a

namespace Step

variable {x : String} {t : Nat}

theorem renews_start : (⟨⟨t, .start id⟩, s⟩ : Step).Renews x ↔ x = id := by
  simp only [Renews, Operation.start.injEq, reduceCtorEq, false_and, or_false]
  exact eq_comm

theorem renews_touch :
    (⟨⟨t, .touch id⟩, s⟩ : Step).Renews x ↔ x = id ∧ (s.touch t id).1 = true := by
  simp only [Renews, Operation.touch.injEq, reduceCtorEq, false_or]
  exact and_congr_left fun _ ↦ eq_comm

theorem not_renews_close : ¬ (⟨⟨t, .close id⟩, s⟩ : Step).Renews x := by
  simp only [Renews, reduceCtorEq, false_and, or_false, not_false_eq_true]

/-- Only a session that begins evicts another one. -/
theorem not_ends_touch : ¬ (⟨⟨t, .touch id⟩, s⟩ : Step).Ends x := by
  rintro (closes | ⟨⟨new, starts⟩, -⟩)
  · cases closes
  · cases starts

theorem ends_close : (⟨⟨t, .close id⟩, s⟩ : Step).Ends x ↔ x = id := by
  constructor
  · rintro (closes | ⟨⟨new, starts⟩, -⟩)
    · cases closes
      rfl
    · cases starts
  · rintro rfl
    exact .inl rfl

/-- Whatever is held after a step has the time of the step if the step renews it, and else the
time that it had. -/
theorem time_of_mem_after (sound : k.store.Sound) (h : (x, b) ∈ k.after.lastActive) :
    (k.Renews x ∧ k.now = b) ∨ ¬ k.Renews x ∧ (x, b) ∈ k.store.lastActive := by
  obtain ⟨⟨t, o⟩, s⟩ := k
  cases o with
  | start id =>
    rw [renews_start]
    rcases sound.mem_start.1 h with same | ⟨kept, other⟩
    · cases same
      exact .inl ⟨rfl, rfl⟩
    · exact .inr ⟨other, (mem_alive.1 (sound.mem_alive_of_mem_kept kept)).1⟩
  | touch id =>
    rw [renews_touch]
    rcases sound.mem_touch.1 h with ⟨same, found⟩ | ⟨held, other⟩
    · cases same
      exact .inl ⟨⟨rfl, found⟩, rfl⟩
    · exact .inr ⟨fun renewed ↦ other renewed.1, held⟩
  | close id => exact .inr ⟨not_renews_close, (mem_close.1 h).1⟩

/-- Whatever is held after a step begins with it, or was held before and is not ended. -/
theorem starts_or_not_ends_of_mem_after (sound : k.store.Sound)
    (h : (x, b) ∈ k.after.lastActive) :
    k.operation = .start x ∨ (∃ a, (x, a) ∈ k.store.lastActive) ∧ ¬ k.Ends x := by
  have remains : ¬ k.Evicts x := fun evicted ↦ evicted.dropped (Table.mem_names_of_mem h)
  obtain ⟨⟨t, o⟩, s⟩ := k
  cases o with
  | start id =>
    rcases sound.mem_start.1 h with same | ⟨kept, other⟩
    · cases same
      exact .inl rfl
    · refine .inr ⟨⟨b, (mem_alive.1 (sound.mem_alive_of_mem_kept kept)).1⟩, ?_⟩
      rintro (closes | evicted)
      · cases closes
      · exact remains evicted
  | touch id =>
    refine .inr ⟨?_, not_ends_touch⟩
    rcases sound.mem_touch.1 h with ⟨same, found⟩ | ⟨held, other⟩
    · cases same
      obtain ⟨a, ha⟩ := Table.exists_of_mem_names (sound.touch_fst.1 found)
      exact ⟨a, (mem_alive.1 ha).1⟩
    · exact ⟨b, held⟩
  | close id =>
    obtain ⟨held, other⟩ := mem_close.1 h
    exact .inr ⟨⟨b, held⟩, fun ends ↦ other (ends_close.1 ends)⟩

/-- A session that is renewed is held with the time of the step. -/
theorem mem_after_of_renews (sound : k.store.Sound) (h : k.Renews x) :
    (x, k.now) ∈ k.after.lastActive := by
  obtain ⟨⟨t, o⟩, s⟩ := k
  cases o with
  | start id =>
    rw [renews_start] at h
    subst h
    exact sound.mem_start.2 (.inl rfl)
  | touch id =>
    obtain ⟨rfl, found⟩ := renews_touch.1 h
    exact sound.mem_touch.2 (.inl ⟨rfl, found⟩)
  | close id => exact absurd h not_renews_close

/-- Whatever is held before a step and neither renewed nor ended is held after it, unless it has
expired. -/
theorem mem_after_of_not_ends (sound : k.store.Sound) (idle : ¬ k.Renews x) (h : ¬ k.Ends x)
    (held : (x, a) ∈ k.store.lastActive) :
    (x, a) ∈ k.after.lastActive ∨ k.store.idleTimeout ≤ k.now - a := by
  obtain ⟨⟨t, o⟩, s⟩ := k
  cases o with
  | start id =>
    rw [renews_start] at idle
    rcases Nat.lt_or_ge (t - a) s.idleTimeout with young | old
    · refine .inl (sound.mem_start.2 (.inr ⟨?_, idle⟩))
      have alive : (x, a) ∈ s.alive t := mem_alive.2 ⟨held, young⟩
      rcases sound.kept_cases t with ⟨-, eq⟩ | ⟨full, o, oldest, least, eq⟩ <;> rw [eq]
      · exact alive
      · refine Table.mem_erase.2 ⟨alive, ?_⟩
        -- The session that has been idle longest would be evicted.
        rintro rfl
        refine h (.inr ⟨⟨id, rfl⟩, full, ⟨o.2, oldest, least⟩, fun remains ↦ ?_⟩)
        obtain ⟨b, hb⟩ := Table.exists_of_mem_names remains
        rcases sound.mem_start.1 hb with same | ⟨kept, -⟩
        · cases same
          exact idle rfl
        · rw [eq] at kept
          exact (Table.mem_erase.1 kept).2 rfl
    · exact .inr old
  | touch id =>
    by_cases same : x = id
    · subst same
      have missed : (s.touch t x).1 ≠ true := fun found ↦ idle (renews_touch.2 ⟨rfl, found⟩)
      refine .inr (Nat.le_of_not_lt fun young ↦ missed (sound.touch_fst.2 ?_))
      exact Table.mem_names_of_mem (mem_alive.2 ⟨held, young⟩)
    · exact .inl (sound.mem_touch.2 (.inr ⟨held, same⟩))
  | close id => exact .inl (mem_close.2 ⟨held, fun same ↦ h (ends_close.2 same)⟩)

end Step

/-- One more step keeps a store in agreement with its history. -/
theorem Records.step (h : Records ks k.store) (sound : k.store.Sound) :
    Records (ks ++ [k]) k.after := by
  refine ⟨fun {x b} hb ↦ ?_, fun {x b} hb ↦ ?_, fun {x b} opened active ↦ ?_⟩
  · rcases Step.time_of_mem_after sound hb with ⟨renewed, time⟩ | ⟨idle, held⟩
    · exact (lastActive_of_renews renewed).2 time
    · exact (lastActive_of_not_renews idle).2 (h.lastActive held)
  · refine open_append_singleton.2 ?_
    refine (Step.starts_or_not_ends_of_mem_after sound hb).imp_right fun ⟨⟨a, held⟩, stays⟩ ↦ ?_
    exact ⟨h.isOpen held, stays⟩
  · have timeout : k.after.idleTimeout = k.store.idleTimeout := idleTimeout_perform _ _ _
    rw [timeout]
    by_cases renewed : k.Renews x
    · rw [← (lastActive_of_renews renewed).1 active]
      exact .inl (Step.mem_after_of_renews sound renewed)
    · obtain ⟨earlier, stays⟩ := (open_append_singleton.1 opened).resolve_left fun starts ↦
        renewed (.inl starts)
      rcases h.held earlier ((lastActive_of_not_renews renewed).1 active) with
        held | ⟨j, hj, old⟩
      · refine (Step.mem_after_of_not_ends sound renewed stays held).imp_right fun old ↦ ?_
        exact ⟨k, List.mem_append_right _ (List.mem_singleton_self k), old⟩
      · exact .inr ⟨j, List.mem_append_left _ hj, old⟩

/-- Every run from an empty store keeps it in agreement with its history. -/
theorem records_run (sound : s.Sound) (empty : s.lastActive = []) (events : List Event) :
    Records (s.steps events) (s.run events) := by
  induction events using List.reverseRecOn with
  | nil =>
    have none {e : String × Nat} : e ∉ s.lastActive := by
      rw [empty]
      exact List.not_mem_nil
    exact ⟨fun h ↦ absurd h none, fun h ↦ absurd h none, fun h ↦ absurd h not_stands_nil⟩
  | append_singleton events e ih =>
    rw [steps_append_singleton, run_append_singleton]
    exact Records.step (k := ⟨e, s.run events⟩) ih (sound.run events)

/-- The sessions that a store holds and that have not expired are those that are live in its
history. -/
theorem Records.mem_names_alive (h : Records ks s) (past : ∀ k ∈ ks, k.now ≤ now) :
    id ∈ (s.alive now).names ↔ Live s.idleTimeout ks now id := by
  constructor
  · intro held
    obtain ⟨a, ha⟩ := Table.exists_of_mem_names held
    obtain ⟨entry, young⟩ := mem_alive.1 ha
    refine ⟨h.isOpen entry, ?_⟩
    rintro ⟨b, active, old⟩
    rw [(h.lastActive entry).unique active] at young
    exact Nat.not_lt_of_le old young
  · rintro ⟨opened, young⟩
    obtain ⟨a, active⟩ := opened.exists_lastActive
    have recent : now - a < s.idleTimeout := Nat.lt_of_not_le fun old ↦ young ⟨a, active, old⟩
    rcases h.held opened active with held | ⟨k, hk, old⟩
    · exact Table.mem_names_of_mem (mem_alive.2 ⟨held, recent⟩)
    · have later := past k hk
      omega

/-! ### Fresh ids and distinct times -/

/-- The id of the session that an event begins. -/
def Event.begun? (e : Event) : Option String :=
  match e.operation with
  | .start id => some id
  | .touch _ => none
  | .close _ => none

/-- An operation begins a session if it is to start that one. -/
theorem Event.begun?_eq_some : e.begun? = some id ↔ e.operation = .start id := by
  obtain ⟨t, o⟩ := e
  cases o <;> simp [begun?]

/-- A session that is held has been begun. -/
theorem Records.mem_begun (h : Records (s.steps events) (s.run events))
    (held : (id, a) ∈ (s.run events).lastActive) : id ∈ events.filterMap Event.begun? := by
  obtain ⟨k, hk, starts⟩ := (h.isOpen held).exists_begins
  refine List.mem_filterMap.2 ⟨k.toEvent, ?_, Event.begun?_eq_some.2 starts⟩
  rw [← map_toEvent_steps s events]
  exact List.mem_map.2 ⟨k, hk, rfl⟩

/-- A run may be taken apart at one of its operations. -/
theorem run_append_cons (s : SessionStore) (events more : List Event) (e : Event) :
    s.run (events ++ e :: more) = ((s.run events).perform e.now e.operation).2.run more := by
  rw [run, List.foldl_append]
  rfl

/-- Whatever is held after an operation begins with it, or was held before. -/
theorem Sound.mem_names_perform (h : s.Sound) {o : Operation}
    (held : id ∈ (s.perform now o).2.lastActive.names) :
    o = .start id ∨ id ∈ s.lastActive.names := by
  obtain ⟨b, hb⟩ := Table.exists_of_mem_names held
  refine (Step.starts_or_not_ends_of_mem_after (k := ⟨⟨now, o⟩, s⟩) h hb).imp_right ?_
  rintro ⟨⟨a, ha⟩, -⟩
  exact Table.mem_names_of_mem ha

/-- A session that is not held is not held later on, unless it begins. -/
theorem Sound.notMem_names_run (h : s.Sound) (absent : id ∉ s.lastActive.names)
    (new : id ∉ events.filterMap Event.begun?) : id ∉ (s.run events).lastActive.names := by
  induction events generalizing s with
  | nil => exact absent
  | cons e events ih =>
    have next : id ∉ (s.perform e.now e.operation).2.lastActive.names := by
      intro held
      refine (h.mem_names_perform held).elim (fun starts ↦ new ?_) absent
      exact List.mem_filterMap.2 ⟨e, List.mem_cons_self, Event.begun?_eq_some.2 starts⟩
    refine ih (h.perform e.now e.operation) next fun later ↦ new ?_
    obtain ⟨d, hd, begun⟩ := List.mem_filterMap.1 later
    exact List.mem_filterMap.2 ⟨d, List.mem_cons_of_mem _ hd, begun⟩

/-- A touch does not find a session that is not held. -/
theorem Sound.touch_of_notMem (h : s.Sound) (absent : id ∉ s.lastActive.names) :
    (s.touch now id).1 = false := by
  rw [← Bool.not_eq_true, h.touch_fst]
  intro alive
  obtain ⟨a, ha⟩ := Table.exists_of_mem_names alive
  exact absent (Table.mem_names_of_mem (mem_alive.1 ha).1)

/-- A session that a touch does not find is not held after it. -/
theorem Sound.notMem_of_touch (h : s.Sound) (missed : (s.touch now id).1 = false) :
    id ∉ (s.touch now id).2.lastActive.names := by
  intro held
  obtain ⟨a, ha⟩ := Table.exists_of_mem_names held
  rcases h.mem_touch.1 ha with ⟨-, found⟩ | ⟨-, other⟩
  · rw [missed] at found
    exact Bool.false_ne_true found
  · exact other rfl

/-- A step renews one session at most. -/
theorem Step.Renews.unique {x y : String} (hx : k.Renews x) (hy : k.Renews y) : x = y := by
  obtain ⟨⟨t, o⟩, s⟩ := k
  cases o with
  | start id => rw [renews_start.1 hx, renews_start.1 hy]
  | touch id => rw [(renews_touch.1 hx).1, (renews_touch.1 hy).1]
  | close id => exact absurd hx not_renews_close

/-- At distinct times, two sessions with one time of last activity are the same. -/
theorem LastActive.injective {x y : String} (distinct : (ks.map (·.now)).Nodup)
    (hx : LastActive ks x a) (hy : LastActive ks y a) : x = y := by
  obtain ⟨j, hj, renewed, rfl⟩ := hx.exists_begins
  obtain ⟨k, hk, renewed', same⟩ := hy.exists_begins
  obtain rfl : k = j := List.inj_on_of_nodup_map distinct hk hj same
  exact renewed.unique renewed'

/-! ### Bounded stores -/

/-- Below the limit a session with a new id joins all those that have not expired. -/
theorem Sound.mem_start_of_lt (h : s.Sound) {new : String} (fresh : new ∉ (s.alive now).names)
    (room : (s.alive now).length < s.limit) (e : String × Nat) :
    e ∈ (s.start now new).lastActive ↔ e = (new, now) ∨ e ∈ s.alive now := by
  have other (he : e ∈ s.alive now) : e.1 ≠ new := by
    rintro rfl
    exact fresh (Table.mem_names_of_mem he)
  rw [h.mem_start]
  rcases h.kept_cases now with ⟨-, eq⟩ | ⟨full, -⟩
  · rw [eq, and_iff_left_of_imp other]
  · exact absurd room (Nat.not_lt_of_le full)

/-- At the limit a session with a new id takes the place of the one active longest ago. -/
theorem Sound.mem_start_of_le (h : s.Sound) {new : String} (fresh : new ∉ (s.alive now).names)
    (distinct : ∀ d ∈ s.alive now, ∀ e ∈ s.alive now, d.2 = e.2 → d = e)
    (full : s.limit ≤ (s.alive now).length) :
    ∃ oldest ∈ s.alive now, (∀ e ∈ s.alive now, e ≠ oldest → oldest.2 < e.2) ∧
      ∀ e, e ∈ (s.start now new).lastActive ↔
        e = (new, now) ∨ e ∈ s.alive now ∧ e ≠ oldest := by
  rcases h.kept_cases now with ⟨room, -⟩ | ⟨-, oldest, held, least, eq⟩
  · exact absurd room (Nat.not_lt_of_le full)
  refine ⟨oldest, held, fun e he ne ↦ ?_, fun e ↦ ?_⟩
  · exact Nat.lt_of_le_of_ne (least e he) fun same ↦ ne (distinct e he oldest held same.symm)
  · have other (he : e ∈ s.alive now) : e.1 ≠ new := by
      rintro rfl
      exact fresh (Table.mem_names_of_mem he)
    have named (he : e ∈ s.alive now) : e.1 ≠ oldest.1 ↔ e ≠ oldest := by
      refine not_congr ⟨fun same ↦ ?_, congrArg Prod.fst⟩
      exact List.inj_on_of_nodup_map (h.distinct_alive now) he held same
    rw [h.mem_start, eq, Table.mem_erase]
    constructor
    · rintro (new | ⟨⟨he, ne⟩, -⟩)
      · exact .inl new
      · exact .inr ⟨he, (named he).1 ne⟩
    · rintro (new | ⟨he, ne⟩)
      · exact .inl new
      · exact .inr ⟨⟨he, (named he).2 ne⟩, other he⟩

/-- A touch leaves all other sessions as they were. -/
theorem Sound.mem_touch_of_ne (h : s.Sound) {e : String × Nat} (other : e.1 ≠ id) :
    e ∈ (s.touch now id).2.lastActive ↔ e ∈ s.lastActive := by
  rw [h.mem_touch, and_iff_left other]
  refine or_iff_right ?_
  rintro ⟨rfl, -⟩
  exact other rfl

/-- A session that has begun and that a touch has missed is missed by every later touch. -/
theorem Sound.touch_run_of_missed (h : s.Sound) {more : List Event}
    (fresh : ((events ++ ⟨now, .touch id⟩ :: more).filterMap Event.begun?).Nodup)
    (begun : id ∈ events.filterMap Event.begun?) (missed : ((s.run events).touch now id).1 = false)
    (later : Nat) : ((s.run (events ++ ⟨now, .touch id⟩ :: more)).touch later id).1 = false := by
  have sound := h.run events
  have next : ((s.run events).touch now id).2.Sound := sound.perform now (.touch id)
  have unbegun : id ∉ more.filterMap Event.begun? := by
    intro again
    rw [List.filterMap_append] at fresh
    have again' : id ∈ (⟨now, .touch id⟩ :: more : List Event).filterMap Event.begun? := again
    exact (List.nodup_append.1 fresh).2.2 id begun id again' rfl
  rw [run_append_cons]
  exact (next.run more).touch_of_notMem
    (next.notMem_names_run (sound.notMem_of_touch missed) unbegun)

/-- What holds of the store that a run leaves which begins in a store: it is a bounded record of the
sessions active last. -/
structure Recency (s₀ : SessionStore) (timeout limit : Nat) (events : List Event) : Prop where
  /-- No more sessions are held than may be. -/
  size : (s₀.run events).size ≤ limit
  /-- Each session is held with the time of its last activity. -/
  lastActive : ∀ e ∈ (s₀.run events).lastActive, LastActive (s₀.steps events) e.1 e.2
  /-- The sessions that have not expired are the live ones. -/
  alive : ∀ now, (∀ e ∈ events, e.now < now) → ∀ id,
    id ∈ ((s₀.run events).alive now).names ↔ Live timeout (s₀.steps events) now id
  /-- A touch finds the live ones. -/
  touch : ∀ now, (∀ e ∈ events, e.now < now) → ∀ id,
    ((s₀.run events).touch now id).1 = true ↔ Live timeout (s₀.steps events) now id
  /-- A session that begins drops the expired ones only, below the limit. -/
  start_of_lt : ∀ now, (∀ e ∈ events, e.now < now) → ∀ new, new ∉ events.filterMap Event.begun? →
    ((s₀.run events).alive now).length < limit → ∀ e,
      e ∈ ((s₀.run events).start now new).lastActive ↔
        e = (new, now) ∨ e ∈ (s₀.run events).alive now
  /-- At the limit it drops as well the one active longest ago, and no other one. -/
  start_of_le : ∀ now, (∀ e ∈ events, e.now < now) → ∀ new, new ∉ events.filterMap Event.begun? →
    limit ≤ ((s₀.run events).alive now).length →
      ∃ oldest ∈ (s₀.run events).alive now,
        (∀ e ∈ (s₀.run events).alive now, e ≠ oldest → oldest.2 < e.2) ∧
        ∀ e, e ∈ ((s₀.run events).start now new).lastActive ↔
          e = (new, now) ∨ e ∈ (s₀.run events).alive now ∧ e ≠ oldest
  /-- Touching a session concerns no other one. -/
  touch_other : ∀ now id, ∀ e : String × Nat, e.1 ≠ id →
    (e ∈ ((s₀.run events).touch now id).2.lastActive ↔ e ∈ (s₀.run events).lastActive)
  /-- Nor does closing it. -/
  close_other : ∀ id, ∀ e : String × Nat, e.1 ≠ id →
    (e ∈ ((s₀.run events).close id).2.lastActive ↔ e ∈ (s₀.run events).lastActive)
  /-- A session that a touch has missed is never found again. -/
  missed : ∀ now id more, ((events ++ ⟨now, .touch id⟩ :: more).filterMap Event.begun?).Nodup →
    id ∈ events.filterMap Event.begun? → ((s₀.run events).touch now id).1 = false →
      ∀ later, ((s₀.run (events ++ ⟨now, .touch id⟩ :: more)).touch later id).1 = false

/-- A store that begins empty and may hold some number of sessions holds no more of them after
any run, with the times of their last activity. Those that have not expired are the live ones of
its history, and these are the ones that a touch finds. A session that begins drops the expired
ones, and of the others none below the limit and only the one active longest ago at the limit;
touching and closing a session concern no other one. A session that a touch has missed is never
found again. -/
theorem run_bounded_recency (timeout : Nat) {limit : Nat} (positive : 1 ≤ limit)
    {events : List Event} (ordered : (events.map Event.now).Pairwise (· < ·)) :
    Recency (({ idleTimeout := timeout } : SessionStore).withLimit limit) timeout limit events := by
  let s₀ := ({ idleTimeout := timeout } : SessionStore).withLimit limit
  let s := s₀.run events
  have bound : s₀.limit = limit := Nat.max_eq_left positive
  have sound₀ : s₀.Sound := sound_of_lastActive_eq_nil (Nat.le_max_right limit 1) rfl
  have sound : s.Sound := sound₀.run events
  have records : Records (s₀.steps events) s := records_run sound₀ rfl events
  have timeout_eq : s.idleTimeout = timeout := idleTimeout_run s₀ events
  have limit_eq : s.limit = limit := (limit_run s₀ events).trans bound
  have distinct : ((s₀.steps events).map (·.now)).Nodup := by
    have times : (s₀.steps events).map (·.now) = events.map Event.now := by
      rw [← map_toEvent_steps s₀ events, List.map_map, map_toEvent_steps]
      rfl
    rw [times]
    exact ordered.imp Nat.ne_of_lt
  have live {now : Nat} (past : ∀ e ∈ events, e.now < now) (id : String) :
      id ∈ (s.alive now).names ↔ Live timeout (s₀.steps events) now id := by
    rw [← timeout_eq]
    refine records.mem_names_alive fun k hk ↦ Nat.le_of_lt (past k.toEvent ?_)
    rw [← map_toEvent_steps s₀ events]
    exact List.mem_map.2 ⟨k, hk, rfl⟩
  have absent {now : Nat} {new : String} (fresh : new ∉ events.filterMap Event.begun?) :
      new ∉ (s.alive now).names := by
    intro held
    obtain ⟨a, ha⟩ := Table.exists_of_mem_names held
    exact fresh (records.mem_begun (mem_alive.1 ha).1)
  refine {
    size := Nat.le_trans sound.bounded (Nat.le_of_eq limit_eq)
    lastActive := fun e he ↦ records.lastActive he
    alive := fun now past ↦ live past
    touch := fun now past id ↦ sound.touch_fst.trans (live past id)
    start_of_lt := fun now _ new fresh below ↦ ?_
    start_of_le := fun now _ new fresh full ↦ ?_
    touch_other := fun now id e other ↦ sound.mem_touch_of_ne other
    close_other := fun id e other ↦ mem_close.trans (and_iff_left other)
    missed := fun now id more fresh begun missed ↦ sound₀.touch_run_of_missed fresh begun missed }
  · exact sound.mem_start_of_lt (absent fresh) (Nat.lt_of_lt_of_eq below limit_eq.symm)
  · refine sound.mem_start_of_le (absent fresh) (fun d hd e he same ↦ ?_)
      (Nat.le_trans (Nat.le_of_eq limit_eq) full)
    have hd' := records.lastActive (mem_alive.1 hd).1
    have he' := records.lastActive (mem_alive.1 he).1
    rw [← same] at he'
    exact Prod.ext (hd'.injective distinct he') same

/-- Two sessions, one of which gives way to a third one while the other is touched. -/
def crowded : List Event :=
  [⟨0, .start "a"⟩, ⟨1, .start "b"⟩, ⟨2, .touch "a"⟩, ⟨3, .start "c"⟩]

/-- The session active longest ago has made room for the third one and is never found again. The
next one to go is the one that was touched before the third one began. -/
theorem run_bounded_recency_crowded :
    let s₀ := ({ idleTimeout := 10 } : SessionStore).withLimit 2
    let s := s₀.run crowded
    s.size ≤ 2 ∧ Live 10 (s₀.steps crowded) 5 "a" ∧ ¬ Live 10 (s₀.steps crowded) 5 "b" ∧
      (∃ oldest ∈ s.alive 5, oldest = ("a", 2) ∧
        ∀ e, e ∈ (s.start 5 "d").lastActive ↔ e = ("d", 5) ∨ e ∈ s.alive 5 ∧ e ≠ oldest) ∧
      ∀ later, ((s₀.run (crowded ++ [⟨4, .touch "b"⟩, ⟨5, .close "a"⟩])).touch later "b").1 =
        false := by
  intro s₀ s
  have recency : Recency s₀ 10 2 crowded := run_bounded_recency 10 (by decide) (by decide)
  have touch := recency.touch 5 (by decide)
  obtain ⟨oldest, held, least, left⟩ :=
    recency.start_of_le 5 (by decide) "d" (by decide) (by decide)
  refine ⟨recency.size, (touch "a").1 (by decide),
    fun live ↦ absurd ((touch "b").2 live) (by decide), ⟨oldest, held, ?_, left⟩,
    recency.missed 4 "b" [⟨5, .close "a"⟩] (by decide) (by decide) (by decide)⟩
  have two : s.alive 5 = [("a", 2), ("c", 3)] := by decide
  rw [two, List.mem_cons, List.mem_singleton] at held
  rcases held with rfl | rfl
  · rfl
  · exact absurd (least ("a", 2) (by decide) (by decide)) (by decide)

end Toolsmith.Server.SessionStore
