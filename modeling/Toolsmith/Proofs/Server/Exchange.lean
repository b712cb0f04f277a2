import Toolsmith.Proofs.Server.Recency
import Toolsmith.Server.Route

/-!
# Exchanges with a server that keeps sessions

Where a server keeps sessions, every inquiry is at most one operation on the store: a greeting
begins a session, any other message touches the one that its header names, and a request to end a
session closes it. The answer tells what the operation has come to. So what an exchange says of a
session, by headers and status codes, is what the step of the store says of it.

## Main definitions

* `Server.Inquiry.operation?`: what an inquiry does to the sessions.
* `Server.Exchange`: an inquiry with what it finds.
* `Server.Exchange.Begins`, `Server.Exchange.Renews`, `Server.Exchange.Ends`: what an exchange says
  of a session.

## Main statements

* `Server.Exchange.answer_of_greets`, `Server.Exchange.answer_of_asks`,
  `Server.Exchange.answer_of_deletes`: what is answered.
* `Server.Exchange.endpointAfter_eq`: what becomes of the server.
* `Server.Exchange.reads_step`: an exchange and the step of the store say the same.
-/

namespace Toolsmith.Server

open SessionStore (Event Operation Step)

variable {σ : Type} {e : Endpoint σ} {m : Moment} {i : Inquiry} {state : σ} {id : String}
  {store : SessionStore}

/-! ### Inquiries as operations -/

namespace Inquiry

/-- Whether the inquiry is a message that begins a session. -/
def Greets (i : Inquiry) : Prop :=
  i.isToMessages = true ∧ i.method = "POST" ∧ Endpoint.isGreeting i.body = true

/-- Whether the inquiry is a message, or a text that should be one, that begins no session. -/
def Asks (i : Inquiry) : Prop :=
  i.isToMessages = true ∧ i.method = "POST" ∧ Endpoint.isGreeting i.body = false

/-- Whether the inquiry is to end a session. -/
def Deletes (i : Inquiry) : Prop :=
  i.isToMessages = true ∧ i.method = "DELETE"

instance : Decidable i.Greets := inferInstanceAs (Decidable (_ ∧ _ ∧ _))

instance : Decidable i.Asks := inferInstanceAs (Decidable (_ ∧ _ ∧ _))

instance : Decidable i.Deletes := inferInstanceAs (Decidable (_ ∧ _))

/-- The id of a session in the header. -/
def id? (i : Inquiry) : Option String :=
  Endpoint.visible i.session

/-- What the inquiry does to the sessions, if anything; a session that begins has a fresh id. -/
def operation? (i : Inquiry) (freshId : String) : Option Operation :=
  if i.isToMessages then
    if i.method = "POST" then
      if Endpoint.isGreeting i.body then some (.start freshId) else i.id?.map .touch
    else if i.method = "DELETE" then i.id?.map .close
    else none
  else none

/-- An inquiry begins a session if it greets, and then the fresh one. -/
theorem operation?_eq_start (freshId : String) :
    i.operation? freshId = some (.start id) ↔ i.Greets ∧ freshId = id := by
  rw [operation?, Greets]
  split_ifs <;> simp [*]

/-- An inquiry touches a session if it asks under its id. -/
theorem operation?_eq_touch (freshId : String) :
    i.operation? freshId = some (.touch id) ↔ i.Asks ∧ i.id? = some id := by
  rw [operation?, Asks]
  split_ifs <;> simp [*]

/-- An inquiry closes a session if it asks for that under its id. -/
theorem operation?_eq_close (freshId : String) :
    i.operation? freshId = some (.close id) ↔ i.Deletes ∧ i.id? = some id := by
  rw [operation?, Deletes]
  split_ifs <;> simp [*]

/-- No other inquiry does anything to the sessions, nor does one that names none. -/
theorem operation?_eq_none (greets : ¬ i.Greets) (unnamed : i.Asks ∨ i.Deletes → i.id? = none)
    (freshId : String) : i.operation? freshId = none := by
  have named {id : String} (h : i.Asks ∨ i.Deletes) : i.id? ≠ some id := by
    rw [unnamed h]
    exact (Option.some_ne_none id).symm
  cases h : i.operation? freshId with
  | none => rfl
  | some o =>
    cases o with
    | start id => exact absurd ((operation?_eq_start freshId).1 h).1 greets
    | touch id =>
      obtain ⟨asks, header⟩ := (operation?_eq_touch freshId).1 h
      exact absurd header (named (.inl asks))
    | close id =>
      obtain ⟨deletes, header⟩ := (operation?_eq_close freshId).1 h
      exact absurd header (named (.inr deletes))

/-- What the inquiry does to the sessions, and when. -/
def event? (i : Inquiry) (m : Moment) : Option Event :=
  (i.operation? m.freshId).map fun o ↦ ⟨m.now, o⟩

end Inquiry

/-! ### Answers -/

namespace Endpoint

/-- A message that is delivered begins no session. -/
theorem session_deliver (e : Endpoint σ) (body : String) (state : σ) :
    (e.deliver body state).1.session = none := by
  rw [deliver]
  split <;> rfl

/-- What a message is answered carries no id of a session. -/
theorem deliver_eq (e : Endpoint σ) (body : String) (state : σ) :
    ({ (e.deliver body state).1 with session := none }, (e.deliver body state).2) =
      e.deliver body state := by
  rw [deliver]
  split <;> rfl

/-- A message that is delivered is never turned away as a bad request. -/
theorem status_deliver_ne (e : Endpoint σ) (body : String) (state : σ) :
    (e.deliver body state).1.status ≠ 400 := by
  rw [deliver]
  split <;> simp [Answer.ofResponse]

/-- The answer to a greeting. -/
theorem respond_of_greets (h : e.sessions = some store) (greets : i.Greets) :
    e.respond m i state =
      ({ (e.deliver i.body state).1 with session := some m.freshId },
        { e with sessions := some (store.start m.now m.freshId) }, (e.deliver i.body state).2) := by
  obtain ⟨path, method, greeting⟩ := greets
  simp [respond, path, method, post, h, greeting]

/-- The answer to a message without the id of a session. -/
theorem respond_of_asks_none (h : e.sessions = some store) (asks : i.Asks)
    (header : i.id? = none) : e.respond m i state = (.noSession, e, state) := by
  obtain ⟨path, method, message⟩ := asks
  have none : visible i.session = none := header
  simp [respond, path, method, post, h, message, none]

/-- The answer to a message with the id of a session: it is handled if a touch finds the session,
and else turned away. -/
theorem respond_of_asks (h : e.sessions = some store) (asks : i.Asks) (header : i.id? = some id) :
    e.respond m i state =
      if (store.touch m.now id).1 = true then
        ((e.deliver i.body state).1, { e with sessions := some (store.touch m.now id).2 },
          (e.deliver i.body state).2)
      else (.noSession, { e with sessions := some (store.touch m.now id).2 }, state) := by
  obtain ⟨path, method, message⟩ := asks
  have some : visible i.session = some id := header
  rcases touched : store.touch m.now id with ⟨found, after⟩
  cases found <;> simp [respond, path, method, post, h, message, some, touched]

/-- The answer to the request to end a session. -/
theorem respond_of_deletes (h : e.sessions = some store) (deletes : i.Deletes)
    (header : i.id? = some id) :
    e.respond m i state =
      ({ status := if (store.close id).1 then 200 else 404 },
        { e with sessions := some (store.close id).2 }, state) := by
  obtain ⟨path, method⟩ := deletes
  have some : visible i.session = some id := header
  simp [respond, path, method, delete, h, some]

/-- The answer to the request to end a session without its id. -/
theorem respond_of_deletes_none (h : e.sessions = some store) (deletes : i.Deletes)
    (header : i.id? = none) : e.respond m i state = (.noSession, e, state) := by
  obtain ⟨path, method⟩ := deletes
  have none : visible i.session = none := header
  simp [respond, path, method, delete, h, none]

/-- The answer to every other inquiry. -/
theorem respond_of_others (e : Endpoint σ) (m : Moment) (state : σ) (greets : ¬ i.Greets)
    (asks : ¬ i.Asks) (deletes : ¬ i.Deletes) :
    ∃ status, e.respond m i state = ({ status }, e, state) := by
  by_cases path : i.isToMessages = true
  · have post : i.method ≠ "POST" := by
      intro post
      cases greeting : isGreeting i.body with
      | true => exact greets ⟨path, post, greeting⟩
      | false => exact asks ⟨path, post, greeting⟩
    have delete : i.method ≠ "DELETE" := fun delete ↦ deletes ⟨path, delete⟩
    exact ⟨405, by simp [respond, path, post, delete]⟩
  · exact ⟨404, by simp [respond, path]⟩

end Endpoint

/-! ### Exchanges -/

/-- An inquiry at a moment, with the server and the state of its tools that it finds. -/
structure Exchange (σ : Type) where
  /-- The moment. -/
  moment : Moment
  /-- The inquiry. -/
  inquiry : Inquiry
  /-- The server. -/
  endpoint : Endpoint σ
  /-- The state of the tools. -/
  state : σ

/-- The ids of the sessions that are held. -/
def Endpoint.held (e : Endpoint σ) : List String :=
  match e.sessions with
  | none => []
  | some store => store.lastActive.names

namespace Exchange

variable {x : Exchange σ}

/-- What is answered. -/
def answer (x : Exchange σ) : Answer :=
  (x.endpoint.respond x.moment x.inquiry x.state).1

/-- The server afterwards. -/
def endpointAfter (x : Exchange σ) : Endpoint σ :=
  (x.endpoint.respond x.moment x.inquiry x.state).2.1

/-- The state of the tools afterwards. -/
def stateAfter (x : Exchange σ) : σ :=
  (x.endpoint.respond x.moment x.inquiry x.state).2.2

/-- Whether the body is handled as a message: what is answered, the header aside, and what becomes
of the tools is what the server makes of the message. -/
def Handled (x : Exchange σ) : Prop :=
  ({ x.answer with session := none }, x.stateAfter) = x.endpoint.deliver x.inquiry.body x.state

instance [DecidableEq σ] : Decidable x.Handled := inferInstanceAs (Decidable (_ = _))

/-- Whether the reply to a greeting carries the id of a session. -/
def Begins (x : Exchange σ) (id : String) : Prop :=
  x.inquiry.Greets ∧ x.answer.session = some id

/-- Whether a session begins, or a message in it is handled. -/
def Renews (x : Exchange σ) (id : String) : Prop :=
  x.Begins id ∨ x.inquiry.Asks ∧ x.inquiry.id? = some id ∧ x.Handled

/-- What happens to the sessions, if anything. -/
def event? (x : Exchange σ) : Option Event :=
  x.inquiry.event? x.moment

/-- The step that the sessions take, if any. -/
def step? (x : Exchange σ) : Option Step :=
  x.endpoint.sessions.bind fun store ↦ x.event?.map fun e ↦ ⟨e, store⟩

/-- Whether a session is ended on request, or makes room for another one. -/
def Ends (x : Exchange σ) (id : String) : Prop :=
  x.inquiry.Deletes ∧ x.inquiry.id? = some id ∨ ∃ k ∈ x.step?, k.Evicts id

/-- An exchange with sessions is a step of their store, if it is an operation on them. -/
theorem step?_eq (h : x.endpoint.sessions = some store) :
    x.step? = x.event?.map fun e ↦ ⟨e, store⟩ := by
  rw [step?, h]
  rfl

theorem event?_eq_some {e : Event} :
    x.event? = some e ↔
      x.inquiry.operation? x.moment.freshId = some e.operation ∧ x.moment.now = e.now := by
  obtain ⟨now, o⟩ := e
  simp only [event?, Inquiry.event?, Option.map_eq_some_iff, Event.mk.injEq]
  constructor
  · rintro ⟨o, h, now, rfl⟩
    exact ⟨h, now⟩
  · rintro ⟨h, now⟩
    exact ⟨o, h, now, rfl⟩

/-! #### What is answered -/

/-- A greeting is always handled, and the reply carries the fresh id. -/
theorem answer_of_greets (h : x.endpoint.sessions = some store) (greets : x.inquiry.Greets) :
    x.Handled ∧ x.answer.session = some x.moment.freshId := by
  rw [Handled, answer, stateAfter, Endpoint.respond_of_greets h greets]
  exact ⟨x.endpoint.deliver_eq x.inquiry.body x.state, rfl⟩

/-- A message is handled if a touch finds the session that its header names, and else turned
away. -/
theorem answer_of_asks (h : x.endpoint.sessions = some store) (asks : x.inquiry.Asks) :
    (x.Handled ↔ ∃ id, x.inquiry.id? = some id ∧ (store.touch x.moment.now id).1 = true) ∧
      (¬ x.Handled → x.answer = .noSession ∧ x.stateAfter = x.state) ∧
      x.answer.session = none := by
  have turned : ({ Answer.noSession with session := none }, x.state) ≠
      x.endpoint.deliver x.inquiry.body x.state := by
    intro same
    exact Endpoint.status_deliver_ne _ _ _ (congrArg (·.1.status) same).symm
  rw [Handled, answer, stateAfter]
  cases header : x.inquiry.id? with
  | none =>
    rw [Endpoint.respond_of_asks_none h asks header]
    refine ⟨iff_of_false turned ?_, fun _ ↦ ⟨rfl, rfl⟩, rfl⟩
    rintro ⟨id, ⟨⟩, -⟩
  | some id =>
    rw [Endpoint.respond_of_asks h asks header]
    cases found : (store.touch x.moment.now id).1 with
    | false =>
      rw [if_neg Bool.false_ne_true]
      refine ⟨iff_of_false turned ?_, fun _ ↦ ⟨rfl, rfl⟩, rfl⟩
      rintro ⟨_, ⟨⟩, found'⟩
      exact Bool.false_ne_true (found.symm.trans found')
    | true =>
      rw [if_pos rfl]
      have handled := x.endpoint.deliver_eq x.inquiry.body x.state
      exact ⟨iff_of_true handled ⟨id, rfl, found⟩, fun left ↦ absurd handled left,
        x.endpoint.session_deliver x.inquiry.body x.state⟩

/-- The request to end a session is answered by whether the session is held. -/
theorem answer_of_deletes (h : x.endpoint.sessions = some store) (deletes : x.inquiry.Deletes) :
    (∀ id, x.inquiry.id? = some id →
        x.answer.status = if id ∈ store.lastActive.names then 200 else 404) ∧
      x.answer.session = none := by
  rw [answer]
  cases header : x.inquiry.id? with
  | none =>
    rw [Endpoint.respond_of_deletes_none h deletes header]
    exact ⟨fun id named ↦ (Option.some_ne_none id named.symm).elim, rfl⟩
  | some id =>
    rw [Endpoint.respond_of_deletes h deletes header]
    refine ⟨fun _ named ↦ ?_, rfl⟩
    cases named
    exact if_congr SessionStore.close_fst rfl rfl

/-- Only the reply to a greeting carries the id of a session. -/
theorem session_answer (h : x.endpoint.sessions = some store) (greets : ¬ x.inquiry.Greets) :
    x.answer.session = none := by
  by_cases asks : x.inquiry.Asks
  · exact (answer_of_asks h asks).2.2
  by_cases deletes : x.inquiry.Deletes
  · exact (answer_of_deletes h deletes).2
  obtain ⟨status, eq⟩ := x.endpoint.respond_of_others x.moment x.state greets asks deletes
  rw [answer, eq]

/-- The server stays, and its sessions do what the inquiry says. -/
theorem endpointAfter_eq (h : x.endpoint.sessions = some store) :
    x.endpointAfter = { x.endpoint with sessions := some (store.run x.event?.toList) } := by
  have same : x.endpoint = { x.endpoint with sessions := some store } := by rw [← h]
  rw [endpointAfter, event?, Inquiry.event?]
  by_cases greets : x.inquiry.Greets
  · rw [Endpoint.respond_of_greets h greets, (Inquiry.operation?_eq_start _).2 ⟨greets, rfl⟩]
    rfl
  by_cases asks : x.inquiry.Asks
  · cases header : x.inquiry.id? with
    | none =>
      rw [Endpoint.respond_of_asks_none h asks header,
        Inquiry.operation?_eq_none greets fun _ ↦ header]
      exact same
    | some id =>
      rw [Endpoint.respond_of_asks h asks header, (Inquiry.operation?_eq_touch _).2 ⟨asks, header⟩]
      split <;> rfl
  by_cases deletes : x.inquiry.Deletes
  · cases header : x.inquiry.id? with
    | none =>
      rw [Endpoint.respond_of_deletes_none h deletes header,
        Inquiry.operation?_eq_none greets fun _ ↦ header]
      exact same
    | some id =>
      rw [Endpoint.respond_of_deletes h deletes header,
        (Inquiry.operation?_eq_close _).2 ⟨deletes, header⟩]
      rfl
  obtain ⟨status, eq⟩ := x.endpoint.respond_of_others x.moment x.state greets asks deletes
  rw [eq, Inquiry.operation?_eq_none greets (Or.elim · (absurd · asks) (absurd · deletes))]
  exact same

/-! #### What is read off an exchange -/

/-- An exchange begins a session if its inquiry does. -/
theorem begins_iff (h : x.endpoint.sessions = some store) :
    x.Begins id ↔ x.inquiry.operation? x.moment.freshId = some (.start id) := by
  rw [Inquiry.operation?_eq_start, Begins]
  refine and_congr_right fun greets ↦ ?_
  rw [(answer_of_greets h greets).2, Option.some_inj]

/-- An exchange renews a session that it begins, or touches with success. -/
theorem renews_iff (h : x.endpoint.sessions = some store) :
    x.Renews id ↔
      x.inquiry.operation? x.moment.freshId = some (.start id) ∨
        x.inquiry.operation? x.moment.freshId = some (.touch id) ∧
          (store.touch x.moment.now id).1 = true := by
  rw [Renews, begins_iff h, Inquiry.operation?_eq_touch, ← and_assoc]
  refine or_congr_right (and_congr_right fun ⟨asks, header⟩ ↦ ?_)
  rw [(answer_of_asks h asks).1]
  constructor
  · rintro ⟨id', header', found⟩
    cases header.symm.trans header'
    exact found
  · exact fun found ↦ ⟨id, header, found⟩

/-- The step of an exchange says of a session what the exchange says. -/
theorem reads_step (h : x.endpoint.sessions = some store) {k : Step} (hk : x.step? = some k)
    (id : String) :
    (x.Begins id ↔ k.operation = .start id) ∧ (x.Renews id ↔ k.Renews id) ∧
      (x.Ends id ↔ k.Ends id) ∧ x.moment.now = k.now := by
  rw [step?_eq h, Option.map_eq_some_iff] at hk
  obtain ⟨e, he, rfl⟩ := hk
  obtain ⟨operation, now⟩ := event?_eq_some.1 he
  have same (o : Operation) :
      x.inquiry.operation? x.moment.freshId = some o ↔ e.operation = o := by
    rw [operation, Option.some_inj]
  refine ⟨(begins_iff h).trans (same _), ?_, ?_, now⟩
  · rw [renews_iff h, same, same, now, Step.Renews]
    refine or_congr_right (and_congr_right fun touches ↦ ?_)
    rw [Step.answer, touches]
    rfl
  · rw [Ends, ← Inquiry.operation?_eq_close x.moment.freshId, same, step?_eq h, he,
      Step.Ends]
    simp

/-- An exchange without a step concerns no session. -/
theorem idle_of_step?_eq_none (h : x.endpoint.sessions = some store) (hk : x.step? = none)
    (id : String) : ¬ x.Begins id ∧ ¬ x.Renews id ∧ ¬ x.Ends id := by
  have none : x.inquiry.operation? x.moment.freshId = none := by
    rw [step?_eq h, Option.map_eq_none_iff] at hk
    exact Option.map_eq_none_iff.1 hk
  have none' (o : Operation) : x.inquiry.operation? x.moment.freshId ≠ some o := by
    rw [none]
    exact (Option.some_ne_none o).symm
  refine ⟨fun begins ↦ none' _ ((begins_iff h).1 begins), fun renews ↦ ?_, ?_⟩
  · exact ((renews_iff h).1 renews).elim (none' _) fun touches ↦ none' _ touches.1
  · rintro (closes | ⟨k, hk', -⟩)
    · exact none' _ ((Inquiry.operation?_eq_close _).2 closes)
    · rw [hk] at hk'
      exact Option.not_mem_none k hk'

/-! #### The sessions that are held -/

/-- The sessions that are held are those of the store. -/
theorem held_endpoint (h : x.endpoint.sessions = some store) :
    x.endpoint.held = store.lastActive.names := by
  rw [Endpoint.held, h]

/-- Only a greeting makes that a session is held that was not. -/
theorem held_of_not_greets (sound : store.Sound) (h : x.endpoint.sessions = some store)
    (greets : ¬ x.inquiry.Greets) (held : id ∈ x.endpointAfter.held) : id ∈ x.endpoint.held := by
  rw [endpointAfter_eq h] at held
  rw [held_endpoint h]
  cases happened : x.event? with
  | none =>
    rw [happened] at held
    exact held
  | some event =>
    rw [happened] at held
    refine (sound.mem_names_perform held).resolve_left fun starts ↦ greets ?_
    rw [event?_eq_some, starts] at happened
    exact ((Inquiry.operation?_eq_start _).1 happened.1).1

/-- A greeting makes that one more session is held, under the fresh id. -/
theorem held_of_greets (sound : store.Sound) (h : x.endpoint.sessions = some store)
    (greets : x.inquiry.Greets) (fresh : x.moment.freshId ∉ x.endpoint.held) :
    id ∈ x.endpointAfter.held ∧ id ∉ x.endpoint.held ↔ id = x.moment.freshId := by
  have after : x.endpointAfter.held =
      (store.start x.moment.now x.moment.freshId).lastActive.names := by
    rw [endpointAfter, Endpoint.respond_of_greets h greets]
    rfl
  rw [after, held_endpoint h]
  rw [held_endpoint h] at fresh
  constructor
  · rintro ⟨held, new⟩
    rcases sound.mem_names_perform (o := .start x.moment.freshId) held with starts | old
    · exact (Operation.start.inj starts).symm
    · exact absurd old new
  · rintro rfl
    exact ⟨Table.mem_names_of_mem (sound.mem_start.2 (.inl rfl)), fresh⟩

/-- Where a session is not held, no message with its id is let through, and it cannot be ended. -/
theorem status_of_notMem_held (sound : store.Sound) (h : x.endpoint.sessions = some store)
    (gone : id ∉ x.endpoint.held) (named : x.inquiry.id? = some id) :
    (x.inquiry.Asks → x.answer.status = 400) ∧ (x.inquiry.Deletes → x.answer.status = 404) := by
  rw [held_endpoint h] at gone
  constructor
  · intro asks
    obtain ⟨handled, turned, -⟩ := answer_of_asks h asks
    refine congrArg Answer.status (turned fun through ↦ ?_).1
    obtain ⟨id', named', touched⟩ := handled.1 through
    cases named.symm.trans named'
    exact Bool.false_ne_true ((sound.touch_of_notMem gone).symm.trans touched)
  · intro deletes
    rw [(answer_of_deletes h deletes).1 id named, if_neg gone]

end Exchange

end Toolsmith.Server
