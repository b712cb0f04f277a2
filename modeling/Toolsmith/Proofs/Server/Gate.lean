import Toolsmith.Proofs.Server.Exchange

/-!
# Messages let through in sessions

A run of a server is a list of exchanges, each of which finds what the one before it has left. The
store that an exchange finds is the one that the operations of the earlier exchanges leave, so that
the sessions it holds are those that the earlier exchanges leave live.

## Main definitions

* `Server.LiveIn`: what exchanges say of a session.
* `Server.Endpoint.exchanges`: the exchanges of several inquiries.

## Main statements

* `Server.liveIn_iff`: exchanges and the steps of the store say the same.
* `Server.Endpoint.exchanges_gated`: what is let through, in every run.
-/

namespace Toolsmith.Server

open SessionStore (Event Operation)

variable {σ : Type} {e : Endpoint σ} {state : σ} {id : String} {store : SessionStore}

/-! ### What the exchanges say of a session -/

variable {xs before after : List (Exchange σ)} {x : Exchange σ} {timeout now : Nat}

/-- Whether the reply to a greeting has carried the id of a session that has since neither been
ended on request, nor made room for another one, nor been idle for a timeout. -/
def LiveIn (timeout : Nat) (xs : List (Exchange σ)) (now : Nat) (id : String) : Prop :=
  Stands (·.Begins id) (·.Ends id) xs ∧
    ¬ ∃ a, Stands (fun x ↦ x.Renews id ∧ x.moment.now = a) (·.Renews id) xs ∧ timeout ≤ now - a

/-- The exchanges and the steps of the store say the same of a session. -/
theorem liveIn_iff (h : ∀ x ∈ xs, ∃ store, x.endpoint.sessions = some store) :
    LiveIn timeout xs now id ↔ SessionStore.Live timeout (xs.filterMap (·.step?)) now id := by
  refine and_congr ?_ (not_congr (exists_congr fun a ↦ and_congr_left fun _ ↦ ?_))
  · refine stands_filterMap (fun x hx k hk ↦ ?_) fun x hx hk ↦ ?_ <;> obtain ⟨store, hs⟩ := h x hx
    · obtain ⟨begins, -, ends, -⟩ := Exchange.reads_step hs hk id
      exact ⟨begins, ends⟩
    · obtain ⟨begins, -, ends⟩ := Exchange.idle_of_step?_eq_none hs hk id
      exact ⟨begins, ends⟩
  · refine stands_filterMap (fun x hx k hk ↦ ?_) fun x hx hk ↦ ?_ <;> obtain ⟨store, hs⟩ := h x hx
    · obtain ⟨-, renews, -, now⟩ := Exchange.reads_step hs hk id
      rw [renews, now]
      exact ⟨Iff.rfl, Iff.rfl⟩
    · obtain ⟨-, renews, -⟩ := Exchange.idle_of_step?_eq_none hs hk id
      exact ⟨fun active ↦ renews active.1, renews⟩

/-! ### Runs -/

/-- The exchanges of several inquiries one after the other. -/
def Endpoint.exchanges (e : Endpoint σ) (state : σ) :
    List (Moment × Inquiry) → List (Exchange σ)
  | [] => []
  | (m, i) :: rest =>
    let x : Exchange σ := { moment := m, inquiry := i, endpoint := e, state }
    x :: x.endpointAfter.exchanges x.stateAfter rest

variable {requests : List (Moment × Inquiry)}

theorem Endpoint.map_exchanges (e : Endpoint σ) (state : σ) (requests : List (Moment × Inquiry)) :
    (e.exchanges state requests).map (fun x ↦ (x.moment, x.inquiry)) = requests := by
  induction requests generalizing e state with
  | nil => rfl
  | cons r rest ih => exact congrArg (r :: ·) (ih _ _)

/-- Each exchange finds the server, with the store that the exchanges before it have left. -/
theorem Endpoint.endpoint_of_exchanges (h : e.sessions = some store)
    (split : e.exchanges state requests = before ++ x :: after) :
    x.endpoint = { e with sessions := some (store.run (before.filterMap (·.event?))) } ∧
      before.filterMap (·.step?) = store.steps (before.filterMap (·.event?)) := by
  induction before generalizing e state store requests with
  | nil =>
    cases requests with
    | nil => cases split
    | cons r rest =>
      obtain ⟨rfl, -⟩ := List.cons.inj split
      refine ⟨?_, rfl⟩
      show e = { e with sessions := some store }
      rw [← h]
  | cons y before ih =>
    cases requests with
    | nil => cases split
    | cons r rest =>
      obtain ⟨head, tail⟩ := List.cons.inj split
      have found : y.endpoint = e := by rw [← head]
      have found_store : y.endpoint.sessions = some store := by rw [found, h]
      have left := y.endpointAfter_eq found_store
      rw [head] at tail
      obtain ⟨stays, steps⟩ := ih (by rw [left]) tail
      rw [left, found] at stays
      rw [stays, List.filterMap_cons, List.filterMap_cons, steps, Exchange.step?_eq found_store]
      cases y.event? with
      | none => exact ⟨rfl, rfl⟩
      | some event => exact ⟨rfl, rfl⟩

/-- Every exchange finds a sound store. -/
theorem Endpoint.sound_of_exchanges (sound : store.Sound) (h : e.sessions = some store)
    (split : e.exchanges state requests = before ++ after) (hx : x ∈ before ++ after) :
    ∃ store, x.endpoint.sessions = some store ∧ store.Sound := by
  obtain ⟨earlier, later, found⟩ := List.append_of_mem hx
  rw [(endpoint_of_exchanges h (split.trans found)).1]
  exact ⟨_, rfl, sound.run _⟩

/-- The sessions that have begun have fresh ids. -/
theorem exists_freshId_of_begun
    (h : id ∈ (xs.filterMap (·.event?)).filterMap Event.begun?) :
    ∃ x ∈ xs, x.moment.freshId = id := by
  obtain ⟨event, hevent, begun⟩ := List.mem_filterMap.1 h
  obtain ⟨x, hx, of_x⟩ := List.mem_filterMap.1 hevent
  obtain ⟨operation, -⟩ := Exchange.event?_eq_some.1 of_x
  rw [Event.begun?_eq_some.1 begun] at operation
  exact ⟨x, hx, ((Inquiry.operation?_eq_start _).1 operation).2⟩

/-- Where no fresh id repeats, exchanges that follow one on another have different ones. -/
theorem Endpoint.freshId_ne (fresh : (requests.map (·.1.freshId)).Nodup)
    (split : e.exchanges state requests = before ++ x :: after) {y z : Exchange σ}
    (hy : y ∈ before) (hz : z ∈ x :: after) : y.moment.freshId ≠ z.moment.freshId := by
  rw [← e.map_exchanges state requests, split, List.map_map, List.map_append] at fresh
  exact (List.nodup_append.1 fresh).2.2 _ (List.mem_map.2 ⟨y, hy, rfl⟩) _
    (List.mem_map.2 ⟨z, hz, rfl⟩)

section Run

variable (sound : store.Sound) (empty : store.lastActive = []) (h : e.sessions = some store)
  (split : e.exchanges state requests = before ++ x :: after)

include sound empty h split

/-- The store that an exchange finds holds those that have not expired of the sessions that the
earlier exchanges leave live. -/
theorem Endpoint.mem_alive_iff_liveIn (ordered : (requests.map (·.1.now)).Pairwise (· ≤ ·))
    (id : String) :
    id ∈ ((store.run (before.filterMap (·.event?))).alive x.moment.now).names ↔
      LiveIn store.idleTimeout before x.moment.now id := by
  have sessions : ∀ y ∈ before, ∃ store, y.endpoint.sessions = some store := by
    intro y hy
    obtain ⟨store', hs, -⟩ := sound_of_exchanges sound h split (List.mem_append_left _ hy)
    exact ⟨store', hs⟩
  have times : (before ++ x :: after).Pairwise (·.moment.now ≤ ·.moment.now) := by
    rw [← split]
    rw [← e.map_exchanges state requests, List.map_map] at ordered
    exact List.pairwise_map.1 ordered
  have records := SessionStore.records_run sound empty (before.filterMap (·.event?))
  rw [liveIn_iff sessions, (endpoint_of_exchanges h split).2,
    ← SessionStore.idleTimeout_run store (before.filterMap (·.event?))]
  refine records.mem_names_alive fun k hk ↦ ?_
  rw [← (endpoint_of_exchanges h split).2] at hk
  obtain ⟨y, hy, step⟩ := List.mem_filterMap.1 hk
  obtain ⟨store', hs⟩ := sessions y hy
  rw [← (Exchange.reads_step hs step id).2.2.2]
  exact (List.pairwise_append.1 times).2.2 y hy x List.mem_cons_self

/-- A session that is held has begun with the fresh id of an earlier exchange. -/
theorem Endpoint.exists_freshId_of_held (held : id ∈ x.endpoint.held) :
    ∃ y ∈ before, y.moment.freshId = id := by
  rw [(endpoint_of_exchanges h split).1] at held
  obtain ⟨a, ha⟩ := Table.exists_of_mem_names held
  exact exists_freshId_of_begun ((SessionStore.records_run sound empty _).mem_begun ha)

/-- A greeting gives an id that no session has. -/
theorem Endpoint.freshId_notMem_held (fresh : (requests.map (·.1.freshId)).Nodup) :
    x.moment.freshId ∉ x.endpoint.held := by
  intro held
  obtain ⟨y, hy, same⟩ := exists_freshId_of_held sound empty h split held
  exact freshId_ne fresh split hy List.mem_cons_self same

/-- A session that has been ended is not held by any later exchange. -/
theorem Endpoint.notMem_held_of_deletes (fresh : (requests.map (·.1.freshId)).Nodup)
    (deletes : x.inquiry.Deletes) (header : x.inquiry.id? = some id)
    (held : id ∈ x.endpoint.held) {y : Exchange σ} (hy : y ∈ after) : id ∉ y.endpoint.held := by
  obtain ⟨middle, rest, rfl⟩ := List.append_of_mem hy
  have split_y : e.exchanges state requests = (before ++ x :: middle) ++ y :: rest := by
    rw [split, List.append_assoc, List.cons_append]
  have event : x.event? = some ⟨x.moment.now, .close id⟩ :=
    Exchange.event?_eq_some.2 ⟨(Inquiry.operation?_eq_close _).2 ⟨deletes, header⟩, rfl⟩
  have sound_x : (store.run (before.filterMap (·.event?))).Sound := sound.run _
  rw [(endpoint_of_exchanges h split_y).1, List.filterMap_append, List.filterMap_cons, event]
  show id ∉ (store.run (_ ++ (⟨_, _⟩ : Event) :: _)).lastActive.names
  rw [SessionStore.run_append_cons]
  refine (sound_x.perform _ (.close id)).notMem_names_run (fun remains ↦ ?_) fun again ↦ ?_
  · obtain ⟨a, ha⟩ := Table.exists_of_mem_names remains
    exact (SessionStore.mem_close.1 ha).2 rfl
  -- The id was fresh when the session began, so that no later session has it.
  · obtain ⟨z, hz, same⟩ := exists_freshId_of_held sound empty h split held
    obtain ⟨z', hz', same'⟩ := exists_freshId_of_begun again
    refine freshId_ne fresh split hz (z := z') ?_ (same.trans same'.symm)
    exact List.mem_cons_of_mem _ (List.mem_append_left _ hz')

end Run

/-- What is let through in a run of a server whose store begins empty. A message that is no
greeting is handled if its header has the id of a live session, and else answered as a bad request,
with the tools left alone. A greeting is handled too and makes that one more session is held, whose
id its reply carries; nothing else does. Ending a live session succeeds. Whatever has been ended
with success, no later message is let through with its id, and no later request ends it again. -/
theorem Endpoint.exchanges_gated (server : Server σ) (positive : 0 < store.limit)
    (empty : store.lastActive = []) (state : σ)
    (ordered : (requests.map (·.1.now)).Pairwise (· ≤ ·))
    (fresh : (requests.map (·.1.freshId)).Nodup)
    (split : ({ server, sessions := some store } : Endpoint σ).exchanges state requests =
      before ++ x :: after) :
    x.endpoint.server = server ∧
      (x.inquiry.Asks →
        (x.Handled ↔ ∃ id, x.inquiry.id? = some id ∧
          LiveIn store.idleTimeout before x.moment.now id) ∧
        (¬ x.Handled →
          x.answer = .ofResponse 400
            (.failure none (-32000) "Bad Request: No valid session ID provided") ∧
          x.stateAfter = x.state)) ∧
      (x.inquiry.Greets →
        x.Handled ∧ x.answer.session = some x.moment.freshId ∧
          ∀ id, id ∈ x.endpointAfter.held ∧ id ∉ x.endpoint.held ↔ id = x.moment.freshId) ∧
      (¬ x.inquiry.Greets →
        x.answer.session = none ∧ ∀ id ∈ x.endpointAfter.held, id ∈ x.endpoint.held) ∧
      (x.inquiry.Deletes → ∀ id, x.inquiry.id? = some id →
        (LiveIn store.idleTimeout before x.moment.now id → x.answer.status = 200) ∧
        (x.answer.status = 200 → ∀ y ∈ after, y.inquiry.id? = some id →
          (y.inquiry.Asks → y.answer.status = 400) ∧
            (y.inquiry.Deletes → y.answer.status = 404))) := by
  have sound : store.Sound := SessionStore.sound_of_lastActive_eq_nil positive empty
  have found := (endpoint_of_exchanges rfl split).1
  have sessions : x.endpoint.sessions = some (store.run (before.filterMap (·.event?))) := by
    rw [found]
  have sound_x : (store.run (before.filterMap (·.event?))).Sound := sound.run _
  have alive := mem_alive_iff_liveIn sound empty rfl split ordered
  refine ⟨by rw [found], fun asks ↦ ?_, fun greets ↦ ?_, fun others ↦ ?_,
    fun deletes id header ↦ ?_⟩
  · obtain ⟨handled, turned, -⟩ := Exchange.answer_of_asks sessions asks
    refine ⟨handled.trans (exists_congr fun id ↦ and_congr_right fun _ ↦ ?_), turned⟩
    rw [sound_x.touch_fst, alive]
  · obtain ⟨handled, carries⟩ := Exchange.answer_of_greets sessions greets
    have new := freshId_notMem_held sound empty rfl split fresh
    exact ⟨handled, carries, fun id ↦ Exchange.held_of_greets sound_x sessions greets new⟩
  · exact ⟨Exchange.session_answer sessions others, fun id held ↦
      Exchange.held_of_not_greets sound_x sessions others held⟩
  · have status := (Exchange.answer_of_deletes sessions deletes).1 id header
    refine ⟨fun live ↦ ?_, fun done y hy named ↦ ?_⟩
    · obtain ⟨a, ha⟩ := Table.exists_of_mem_names ((alive id).2 live)
      rw [status, if_pos (Table.mem_names_of_mem (SessionStore.mem_alive.1 ha).1)]
    have held : id ∈ x.endpoint.held := by
      by_contra absent
      rw [Exchange.held_endpoint sessions] at absent
      rw [status, if_neg absent] at done
      cases done
    have gone := notMem_held_of_deletes sound empty rfl split fresh deletes header held hy
    obtain ⟨store_y, sessions_y, sound_y⟩ :=
      sound_of_exchanges sound rfl split (List.mem_append_right _ (List.mem_cons_of_mem _ hy))
    exact Exchange.status_of_notMem_held sound_y sessions_y gone named

/-- A client that begins a session, lists the tools, ends the session, and tries once more. -/
def visit : List (Moment × Inquiry) :=
  let message (method : String) : String :=
    "\x7b\"jsonrpc\":\"2.0\",\"id\":1,\"method\":\"" ++ method ++ "\"\x7d"
  [({ now := 0, freshId := "a" },
      { method := "POST", path := "/mcp", body := message "initialize" }),
    ({ now := 5, freshId := "b" },
      { method := "POST", path := "/mcp", session := "a", body := message "tools/list" }),
    ({ now := 7, freshId := "c" }, { method := "DELETE", path := "/mcp", session := "a" }),
    ({ now := 8, freshId := "d" },
      { method := "POST", path := "/mcp", session := "a", body := message "tools/list" })]

/-- The first list is made while the session is live; the second one comes too late. -/
theorem Endpoint.exchanges_gated_visit :
    let server : Server Unit := { identity := { name := "tools", version := "1" } }
    ∃ greeting list farewell late : Exchange Unit,
      ({ server, sessions := some {} } : Endpoint Unit).exchanges () visit =
        [greeting, list, farewell, late] ∧
      LiveIn (30 * 60 * 1000) [greeting] 5 "a" ∧ farewell.answer.status = 200 ∧
        late.answer.status = 400 := by
  intro server
  have gated {before : List (Exchange Unit)} {x : Exchange Unit} {after : List (Exchange Unit)} :=
    @exchanges_gated Unit {} before after x visit server (by decide) rfl () (by decide) (by decide)
  refine ⟨_, _, _, _, rfl, ?_, ?_, ?_⟩
  · obtain ⟨-, asks, -⟩ := @gated [_] _ [_, _] rfl
    obtain ⟨handled, -⟩ := asks (by decide +kernel)
    obtain ⟨id, same, live⟩ := handled.1 (by decide +kernel)
    cases same
    exact live
  · decide +kernel
  · obtain ⟨-, -, -, -, deletes⟩ := @gated [_, _] _ [_] rfl
    obtain ⟨-, gone⟩ := deletes (by decide +kernel) "a" rfl
    obtain ⟨late, -⟩ := gone (by decide +kernel) _ (List.mem_singleton_self _) rfl
    exact late (by decide +kernel)

end Toolsmith.Server
