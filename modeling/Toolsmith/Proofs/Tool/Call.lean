import Toolsmith.Proofs.Outcome
import Toolsmith.Tool.Call

/-!
# How a call ends

A call goes through seven steps that may fail, and between the third and the fourth it hands its
request to the upstream, which is all it does to the world. Each step is said here by itself, by
what it looks at, without regard to the others; a call ends with the value of the answer if no step
fails, and with the error of the first one that does.

The requests of a call are told by an upstream that keeps what is handed to it. Nothing but the
upstream can tell it from the one that does not, so what is said of its requests holds of every
call.

## Main definitions

* `Http.Upstream.recorded`: an upstream that keeps the requests.
* `Tool.Attempt`: a call with the upstream it meets, its result and its requests.
* `Tool.Attempt.failure?`, `Tool.Attempt.firstFailure?`: what a step fails by, and the first of
  them.
* `Tool.Attempt.Succeeds`: the value of a call whose request is answered as it should be.

## Main statements

* `Tool.Attempt.ending`: the four ways in which a call comes to its end.
* `Tool.Attempt.result_envelope`: the result of a call and its requests.
-/

namespace Toolsmith

open Json (Value)

/-- The upstream that also keeps the requests that are handed to it. -/
def Http.Upstream.recorded {σ : Type} (upstream : Http.Upstream σ) :
    Http.Upstream (List Http.Request × σ) := fun request state ↦
  ((upstream request state.2).1, state.1 ++ [request], (upstream request state.2).2)

/-! ### Parts of a call -/

namespace Artifact

open Tool (CallError)

variable {a : Artifact} {environment : Table String} {input v : Value} {d : Http.Draft}

/-- A call is prepared if its input is valid, its address can be built, and its method is one. -/
theorem prepare_eq_ok_iff :
    a.prepare environment input = .ok d ↔
      a.inputSchema.validate input = .ok () ∧
        ∃ u, a.handler.url environment input = .ok u ∧ Http.isToken a.handler.method = true ∧
          a.handler.draft u input = d := by
  rw [prepare, check_bind_eq_ok, mapError_eq_ok, bind_eq_ok]
  refine and_congr_right fun _ ↦ exists_congr fun u ↦ and_congr_right fun _ ↦ ?_
  cases Http.isToken a.handler.method with
  | true => exact ⟨fun h ↦ ⟨rfl, Except.ok.inj h⟩, fun h ↦ congrArg Except.ok h.2⟩
  | false => exact ⟨fun h ↦ (nomatch h), fun h ↦ (nomatch h.1)⟩

/-- An answer is read if its status is one of success, and its body a valid value. -/
theorem readAnswer_eq_ok_iff {answer : Http.Answer} :
    a.readAnswer answer = .ok v ↔
      Http.isSuccess answer.status = true ∧ ∃ body, answer.body = .ok body ∧
        Json.parse body = .ok v ∧ a.outputSchema.validate v = .ok () := by
  rw [readAnswer]
  cases Http.isSuccess answer.status with
  | false => exact ⟨fun h ↦ (nomatch h), fun h ↦ (nomatch h.1)⟩
  | true =>
    simp only [if_true, true_and]
    rw [bind_eq_ok]
    refine exists_congr fun body ↦ ?_
    rw [mapError_eq_ok, bind_eq_ok]
    refine and_congr_right fun _ ↦ ⟨?_, ?_⟩
    · rintro ⟨w, hw, h⟩
      rw [mapError_eq_ok] at hw
      obtain ⟨valid, h⟩ := check_bind_eq_ok.1 h
      cases h
      exact ⟨hw, mapError_eq_ok.1 valid⟩
    · rintro ⟨hv, valid⟩
      exact ⟨v, mapError_eq_ok.2 hv, check_bind_eq_ok.2 ⟨mapError_eq_ok.2 valid, rfl⟩⟩

/-- A request is not prepared for its input exactly if the input is not valid. -/
theorem prepare_eq_invalidArguments_iff {violation : Schema.Violation} :
    a.prepare environment input = .error (.invalidArguments violation) ↔
      a.inputSchema.validate input = .error violation := by
  rw [prepare, bind_eq_error, mapError_eq_error]
  constructor
  · rintro (⟨_, h, ⟨⟩⟩ | ⟨_, -, h⟩)
    · exact h
    -- neither the URL nor the method is to be blamed on the input
    rcases bind_eq_error.1 h with h | ⟨u, -, h⟩
    · rw [Handler.url, bind_eq_error, mapError_eq_error] at h
      rcases h with ⟨_, -, h⟩ | ⟨_, -, h⟩
      · cases h
      · rw [bind_eq_error, mapError_eq_error] at h
        rcases h with ⟨_, -, h⟩ | ⟨_, -, h⟩ <;> cases h
    · split at h <;> cases h
  · exact fun h ↦ .inl ⟨violation, h, rfl⟩

/-- No answer makes the input of a call invalid. -/
theorem readAnswer_ne_invalidArguments (answer : Http.Answer) (violation : Schema.Violation) :
    a.readAnswer answer ≠ .error (.invalidArguments violation) := by
  intro h
  rw [readAnswer] at h
  split at h
  · rw [bind_eq_error, mapError_eq_error] at h
    rcases h with ⟨_, -, h⟩ | ⟨_, -, h⟩
    · cases h
    rw [bind_eq_error, mapError_eq_error] at h
    rcases h with ⟨_, -, h⟩ | ⟨_, -, h⟩
    · cases h
    rw [bind_eq_error, mapError_eq_error] at h
    rcases h with ⟨_, -, h⟩ | ⟨_, -, h⟩ <;> cases h
  · cases h

/-- The text of an answer with success is read and checked. -/
theorem readAnswer_of_body {answer : Http.Answer} {body : String}
    (success : Http.isSuccess answer.status = true) (read : answer.body = .ok body) :
    a.readAnswer answer = (do
      let v ← (Json.parse body).mapError .invalidJson
      (a.outputSchema.validate v).mapError .invalidOutput
      return v) := by
  rw [readAnswer, success, read]
  rfl

end Artifact

/-! ### Attempts -/

namespace Tool

/-- The steps of a call that may fail. -/
inductive Step where
  /-- The input is checked. -/
  | arguments
  /-- The URL is put together. -/
  | url
  /-- The method is looked at. -/
  | method
  /-- The request is sent and the answer read. -/
  | transport
  /-- The status code is looked at. -/
  | status
  /-- The body of the answer is read as JSON. -/
  | json
  /-- The value is checked. -/
  | output

/-- The steps in their order. -/
def Step.all : List Step :=
  [.arguments, .url, .method, .transport, .status, .json, .output]

/-- A call of a tool, and the upstream that it meets in some state. -/
structure Attempt (σ : Type) where
  /-- The tool. -/
  artifact : Artifact
  /-- The variables. -/
  environment : Table String
  /-- The input as it is given. -/
  input : Value
  /-- The upstream. -/
  upstream : Http.Upstream σ
  /-- The state of the upstream. -/
  state : σ

namespace Attempt

variable {σ : Type} (c : Attempt σ)

/-- The input as it is checked and sent. -/
def argument : Value :=
  Artifact.normalInput c.input

/-- What the call comes to, and the state after it. -/
def outcome : Except CallError Value × σ :=
  c.artifact.executeVia c.upstream c.environment c.input c.state

/-- The result of the call. -/
def result : Result :=
  (c.artifact.callVia c.upstream c.environment c.input c.state).1

/-- The state after the call. -/
def after : σ :=
  (c.artifact.callVia c.upstream c.environment c.input c.state).2

/-- The same call with an upstream that keeps the requests. -/
def recorded : Attempt (List Http.Request × σ) :=
  { c with upstream := c.upstream.recorded, state := ([], c.state) }

/-- The requests that the call sends, in order. -/
def sent : List Http.Request :=
  c.recorded.after.1

/-- What sending the request comes to, which takes a URL. -/
def exchange? : Option (Except Http.ClientError Http.Answer) :=
  (c.artifact.handler.url c.environment c.argument).toOption.map fun u ↦
    c.artifact.handler.draft u c.argument >>= fun request ↦ (c.upstream request c.state).1

/-- The body of the answer, which takes an answer. -/
def body? : Option (Except Http.ClientError String) :=
  (c.exchange?.bind Except.toOption).map (·.body)

/-- The value that the body spells, which takes a body. -/
def value? : Option (Except Json.Fault Value) :=
  (c.body?.bind Except.toOption).map Json.parse

/-- The error by which a step fails, whatever becomes of the other steps. A step that lacks what it
looks at does not fail. -/
def failure? : Step → Option CallError
  | .arguments => (errorOf? (c.artifact.inputSchema.validate c.argument)).map .invalidArguments
  | .url => errorOf? (c.artifact.handler.url c.environment c.argument)
  | .method =>
    if Http.isToken c.artifact.handler.method then none
    else some (.invalidMethod c.artifact.handler.method)
  | .transport =>
    match c.exchange? with
    | some (.error e) => some (.request e)
    | some (.ok answer) =>
      if Http.isSuccess answer.status then (errorOf? answer.body).map .request else none
    | none => none
  | .status =>
    match c.exchange? with
    | some (.ok answer) =>
      if Http.isSuccess answer.status then none
      else some (.status answer.status (answer.body.toOption.getD ""))
    | _ => none
  | .json => (c.value?.bind errorOf?).map .invalidJson
  | .output =>
    ((c.value?.bind Except.toOption).bind fun v ↦
      errorOf? (c.artifact.outputSchema.validate v)).map .invalidOutput

/-- The error of the first step that fails. -/
def firstFailure? : Option CallError :=
  Step.all.findSome? c.failure?

/-- Whether a request is sent and answered with success, by a text that spells a valid value. -/
def Succeeds (v : Value) : Prop :=
  ∃ request answer body, c.sent = [request] ∧ (c.upstream request c.state).1 = .ok answer ∧
    Http.isSuccess answer.status = true ∧ answer.body = .ok body ∧ Json.parse body = .ok v ∧
    c.artifact.outputSchema.validate v = .ok ()

/-! ### The four ways to an end -/

/-- A call ends before there is a request, at a request that cannot be put together, at a request
that is not answered, or with an answer. It sends the request in the latter two cases. -/
inductive Ending : Prop where
  /-- There is no request. -/
  | unprepared (e : CallError)
      (prepared : c.artifact.prepare c.environment c.argument = .error e)
      (sent : c.sent = []) (after : c.after = c.state) (outcome : c.outcome.1 = .error e)
  /-- The request cannot be put together. -/
  | unsendable (e : Http.ClientError)
      (prepared : c.artifact.prepare c.environment c.argument = .ok (.error e))
      (sent : c.sent = []) (after : c.after = c.state) (outcome : c.outcome.1 = .error (.request e))
  /-- The request is not answered. -/
  | unanswered (request : Http.Request) (e : Http.ClientError)
      (prepared : c.artifact.prepare c.environment c.argument = .ok (.ok request))
      (answered : (c.upstream request c.state).1 = .error e)
      (sent : c.sent = [request]) (after : c.after = (c.upstream request c.state).2)
      (outcome : c.outcome.1 = .error (.request e))
  /-- The request is answered. -/
  | answered (request : Http.Request) (answer : Http.Answer)
      (prepared : c.artifact.prepare c.environment c.argument = .ok (.ok request))
      (answered : (c.upstream request c.state).1 = .ok answer)
      (sent : c.sent = [request]) (after : c.after = (c.upstream request c.state).2)
      (outcome : c.outcome.1 = c.artifact.readAnswer answer)

theorem after_eq : c.after = c.outcome.2 := by
  rw [after, outcome, Artifact.callVia]
  split
  next h => rw [h]
  next h => rw [h]

section Outcome

variable {c} {e : Http.ClientError} {request : Http.Request}

/-- A call that cannot be prepared fails, and the upstream is not asked. -/
theorem outcome_of_error {e : CallError}
    (h : c.artifact.prepare c.environment c.argument = .error e) :
    c.outcome = (.error e, c.state) := by
  rw [argument] at h
  rw [outcome, Artifact.executeVia, h]

/-- A call whose request cannot be sent fails, and the upstream is not asked. -/
theorem outcome_of_unsendable
    (h : c.artifact.prepare c.environment c.argument = .ok (.error e)) :
    c.outcome = (.error (.request e), c.state) := by
  rw [argument] at h
  rw [outcome, Artifact.executeVia, h]

/-- A call that is prepared asks the upstream once, and reads its answer. -/
theorem outcome_of_request
    (h : c.artifact.prepare c.environment c.argument = .ok (.ok request)) :
    c.outcome = (((c.upstream request c.state).1.mapError .request) >>= c.artifact.readAnswer,
      (c.upstream request c.state).2) := by
  rw [argument] at h
  rw [outcome, Artifact.executeVia, h]
  dsimp only
  rcases c.upstream request c.state with ⟨_ | _, _⟩ <;> rfl

end Outcome

/-- The requests of a call are what the upstream that keeps them has after it. -/
theorem sent_eq : c.sent = c.recorded.outcome.2.1 :=
  congrArg Prod.fst c.recorded.after_eq

/-- Every call ends in one of its ways. -/
theorem ending : c.Ending := by
  -- the same is prepared whatever the upstream, so the equations hold of both calls
  rcases h : c.artifact.prepare c.environment c.argument with e | e | request
  · have recorded := outcome_of_error (c := c.recorded) h
    have plain := outcome_of_error h
    exact .unprepared e h (by rw [sent_eq, recorded]; rfl) (by rw [after_eq, plain])
      (by rw [plain])
  · have recorded := outcome_of_unsendable (c := c.recorded) h
    have plain := outcome_of_unsendable h
    exact .unsendable e h (by rw [sent_eq, recorded]; rfl) (by rw [after_eq, plain])
      (by rw [plain])
  · have recorded := outcome_of_request (c := c.recorded) h
    have plain := outcome_of_request h
    have sent : c.sent = [request] := by
      rw [sent_eq, recorded]
      rfl
    have after : c.after = (c.upstream request c.state).2 := by rw [after_eq, plain]
    rcases answered : (c.upstream request c.state).1 with e | answer
    · exact .unanswered request e h answered sent after (by rw [plain, answered]; rfl)
    · exact .answered request answer h answered sent after (by rw [plain, answered]; rfl)

/-- The result of a call is the envelope of what it comes to. -/
theorem result_eq :
    c.result = match c.outcome.1 with
      | .ok v => .ofJson v
      | .error e => .ofError ("Error executing tool " ++ c.artifact.name ++ ": " ++ e.message) := by
  rw [result, outcome, Artifact.callVia]
  split
  next h => rw [h]
  next h => rw [h]

/-! ### The first step that fails -/

section Failure

variable {c}

/-- A request that is not prepared is the fault of one of the first three steps. -/
theorem firstFailure?_of_error {e : CallError}
    (h : c.artifact.prepare c.environment c.argument = .error e) : c.firstFailure? = some e := by
  rw [Artifact.prepare] at h
  rcases valid : c.artifact.inputSchema.validate c.argument with violation | _
  · rw [valid] at h
    cases h
    simp [firstFailure?, Step.all, failure?, valid]
  rcases put : c.artifact.handler.url c.environment c.argument with e | u
  · rw [valid, put] at h
    cases h
    simp [firstFailure?, Step.all, failure?, valid, put]
  cases token : Http.isToken c.artifact.handler.method with
  | false =>
    rw [valid, put, token] at h
    cases h
    simp [firstFailure?, Step.all, failure?, valid, put, token]
  | true =>
    rw [valid, put, token] at h
    cases h

/-- Where a request is prepared, the later steps go by what sending it comes to. -/
theorem firstFailure?_of_ok {d : Http.Draft}
    (h : c.artifact.prepare c.environment c.argument = .ok d) :
    c.exchange? = some (d >>= fun request ↦ (c.upstream request c.state).1) ∧
      c.firstFailure? = [Step.transport, .status, .json, .output].findSome? c.failure? := by
  obtain ⟨valid, u, put, token, rfl⟩ := Artifact.prepare_eq_ok_iff.1 h
  constructor
  · rw [exchange?, put]
    rfl
  · simp [firstFailure?, Step.all, failure?, valid, put, token]

/-- An answer is read by the last steps in their order. -/
theorem findSome?_failure?_of_answer {answer : Http.Answer} (h : c.exchange? = some (.ok answer)) :
    [Step.transport, .status, .json, .output].findSome? c.failure? =
      errorOf? (c.artifact.readAnswer answer) := by
  have body : c.body? = some answer.body := by rw [body?, h]; rfl
  cases success : Http.isSuccess answer.status with
  | false =>
    rw [Artifact.readAnswer, success]
    simp [failure?, h, success]
    rfl
  | true =>
    have status : c.failure? .status = none := by simp [failure?, h, success]
    rcases read : answer.body with e | text
    · rw [Artifact.readAnswer, success, read]
      simp [failure?, h, success, read]
      rfl
    have transport : c.failure? .transport = none := by simp [failure?, h, success, read]
    have value : c.value? = some (Json.parse text) := by rw [value?, body, read]; rfl
    have json : c.failure? .json = (errorOf? (Json.parse text)).map .invalidJson := by
      simp [failure?, value]
    rw [Artifact.readAnswer_of_body success read, List.findSome?_cons, transport,
      List.findSome?_cons, status, List.findSome?_cons, json]
    rcases parsed : Json.parse text with fault | v
    · rfl
    have output : c.failure? .output =
        (errorOf? (c.artifact.outputSchema.validate v)).map .invalidOutput := by
      simp [failure?, value, parsed, Except.toOption]
    rw [List.findSome?_cons, output]
    show _ = errorOf? (do
      (c.artifact.outputSchema.validate v).mapError CallError.invalidOutput
      return v)
    rcases c.artifact.outputSchema.validate v with violation | _ <;> rfl

end Failure

/-- A call comes to the error of the first step that fails, if any does. -/
theorem firstFailure?_eq : c.firstFailure? = errorOf? c.outcome.1 := by
  rcases c.ending with ⟨e, prepared, -, -, outcome⟩ | ⟨e, prepared, -, -, outcome⟩ |
    ⟨request, e, prepared, answered, -, -, outcome⟩ |
    ⟨request, answer, prepared, answered, -, -, outcome⟩
  · rw [firstFailure?_of_error prepared, outcome]
    rfl
  · obtain ⟨exchanged, first⟩ := firstFailure?_of_ok prepared
    have transport : c.failure? .transport = some (.request e) := by
      rw [failure?, exchanged]
      rfl
    rw [first, List.findSome?_cons, transport, outcome]
    rfl
  · obtain ⟨exchanged, first⟩ := firstFailure?_of_ok prepared
    have lost : c.exchange? = some (.error e) := exchanged.trans (congrArg some answered)
    have transport : c.failure? .transport = some (.request e) := by rw [failure?, lost]
    rw [first, List.findSome?_cons, transport, outcome]
    rfl
  · obtain ⟨exchanged, first⟩ := firstFailure?_of_ok prepared
    rw [first, outcome]
    exact findSome?_failure?_of_answer (exchanged.trans (congrArg some answered))

/-- A call is turned away for its input exactly if the input is not valid. -/
theorem outcome_eq_invalidArguments_iff {violation : Schema.Violation} :
    c.outcome.1 = .error (.invalidArguments violation) ↔
      c.artifact.inputSchema.validate c.argument = .error violation := by
  rw [← @Artifact.prepare_eq_invalidArguments_iff _ c.environment]
  rcases c.ending with ⟨e, prepared, -, -, outcome⟩ | ⟨e, prepared, -, -, outcome⟩ |
    ⟨request, e, prepared, -, -, -, outcome⟩ | ⟨request, answer, prepared, -, -, -, outcome⟩ <;>
    rw [prepared, outcome]
  · exact ⟨fun h ↦ by cases h; rfl, fun h ↦ by cases h; rfl⟩
  · exact ⟨fun h ↦ (nomatch h), fun h ↦ (nomatch h)⟩
  · exact ⟨fun h ↦ (nomatch h), fun h ↦ (nomatch h)⟩
  · exact ⟨fun h ↦ absurd h (Artifact.readAnswer_ne_invalidArguments _ _), fun h ↦ (nomatch h)⟩

/-- A call comes to a value exactly if its request is answered with success by that value. -/
theorem succeeds_iff {v : Value} : c.Succeeds v ↔ c.outcome.1 = .ok v := by
  have unsent (sent : c.sent = []) : ¬ c.Succeeds v := by
    rintro ⟨_, _, _, one, -⟩
    cases sent.symm.trans one
  rcases c.ending with ⟨e, -, sent, -, outcome⟩ | ⟨e, -, sent, -, outcome⟩ |
    ⟨request, e, -, answered, sent, -, outcome⟩ | ⟨request, answer, -, answered, sent, -, outcome⟩
  · exact ⟨fun h ↦ absurd h (unsent sent), fun h ↦ by cases outcome.symm.trans h⟩
  · exact ⟨fun h ↦ absurd h (unsent sent), fun h ↦ by cases outcome.symm.trans h⟩
  · refine ⟨?_, fun h ↦ by cases outcome.symm.trans h⟩
    rintro ⟨_, _, _, one, replied, -⟩
    cases sent.symm.trans one
    cases answered.symm.trans replied
  · rw [outcome, Artifact.readAnswer_eq_ok_iff]
    constructor
    · rintro ⟨_, _, body, one, replied, success, read, parsed, valid⟩
      cases sent.symm.trans one
      cases answered.symm.trans replied
      exact ⟨success, body, read, parsed, valid⟩
    · rintro ⟨success, body, read, parsed, valid⟩
      exact ⟨request, answer, body, sent, answered, success, read, parsed, valid⟩

/-- A call that succeeds has its value as a result. -/
theorem result_of_succeeds {v : Value} (h : c.Succeeds v) : c.result = .ofJson v := by
  rw [result_eq, c.succeeds_iff.1 h]

/-- The result of a call is no error if the call succeeds. -/
theorem isError_eq_false_iff : c.result.isError = false ↔ ∃ v, c.Succeeds v := by
  simp only [succeeds_iff, result_eq]
  rcases c.outcome.1 with e | v <;> simp [Result.ofError, Result.ofJson]

/-- Nothing is sent where the input is not valid, a slot of the URL has no value, the URL is none,
or the method is none. -/
theorem sent_eq_nil
    (h : (∃ violation, c.artifact.inputSchema.validate c.argument = .error violation) ∨
      (∃ slot, c.artifact.handler.fill c.environment c.argument = .error slot) ∨
      (∃ chars error, c.artifact.handler.fill c.environment c.argument = .ok chars ∧
        Url.ofChars chars = .error error) ∨
      Http.isToken c.artifact.handler.method = false) : c.sent = [] := by
  have unprepared (d : Http.Draft) : c.artifact.prepare c.environment c.argument ≠ .ok d := by
    intro prepared
    obtain ⟨valid, u, put, token, -⟩ := Artifact.prepare_eq_ok_iff.1 prepared
    obtain ⟨chars, filled, read⟩ := bind_eq_ok.1 put
    rw [mapError_eq_ok] at filled
    obtain ⟨_, read, -⟩ := bind_eq_ok.1 read
    rw [mapError_eq_ok] at read
    rcases h with ⟨_, h⟩ | ⟨_, h⟩ | ⟨_, _, h, h'⟩ | h
    · cases valid.symm.trans h
    · cases filled.symm.trans h
    · cases filled.symm.trans h
      cases read.symm.trans h'
    · cases token.symm.trans h
  rcases c.ending with ⟨e, -, sent, -, -⟩ | ⟨e, prepared, -, -, -⟩ |
    ⟨request, e, prepared, -, -, -, -⟩ | ⟨request, answer, prepared, -, -, -, -⟩
  · exact sent
  · exact absurd prepared (unprepared _)
  · exact absurd prepared (unprepared _)
  · exact absurd prepared (unprepared _)

/-- A call sends one request at most and does nothing else to the upstream; it sends none where the
input is not valid, a slot of the URL has no value, the URL is none, or the method is none. Its
result is one block of text. It is no error exactly if a request is sent and answered with success
by the text of a valid value, which is then the text of the result, and also its structure if it is
an object; else it is the error of the first step that fails, without structure. -/
theorem result_envelope :
    c.sent.length ≤ 1 ∧
      c.after = c.sent.foldl (fun state request ↦ (c.upstream request state).2) c.state ∧
      ((∃ violation, c.artifact.inputSchema.validate c.argument = .error violation) ∨
        (∃ slot, c.artifact.handler.fill c.environment c.argument = .error slot) ∨
        (∃ chars error, c.artifact.handler.fill c.environment c.argument = .ok chars ∧
          Url.ofChars chars = .error error) ∨
        Http.isToken c.artifact.handler.method = false → c.sent = []) ∧
      (c.result.isError = false ↔ ∃ v, c.Succeeds v) ∧
      (∀ v, c.Succeeds v → c.result =
        { content := [.text v.pretty]
          structured := if v.isObject then some v else none
          isError := false }) ∧
      (c.result.isError = true ↔ ∃ e, c.firstFailure? = some e) ∧
      ∀ e, c.firstFailure? = some e → c.result =
        { content := [.text ("Error executing tool " ++ c.artifact.name ++ ": " ++ e.message)]
          structured := none
          isError := true } := by
  have traffic : c.sent.length ≤ 1 ∧
      c.after = c.sent.foldl (fun state request ↦ (c.upstream request state).2) c.state := by
    rcases c.ending with ⟨e, -, sent, after, -⟩ | ⟨e, -, sent, after, -⟩ |
      ⟨request, e, -, -, sent, after, -⟩ | ⟨request, answer, -, -, sent, after, -⟩ <;>
      rw [sent, after] <;> simp
  refine ⟨traffic.1, traffic.2, c.sent_eq_nil, c.isError_eq_false_iff,
    fun v ↦ c.result_of_succeeds, ?_⟩
  rw [firstFailure?_eq, result_eq]
  rcases c.outcome.1 with e | v
  · refine ⟨by simp [Result.ofError], ?_⟩
    rintro _ ⟨⟩
    rfl
  · exact ⟨by simp [Result.ofJson], fun e h ↦ (nomatch h)⟩

/-- A call of a tool that looks a user up, answered by some text; the state counts the requests. -/
def lookup (body : String) : Attempt Nat where
  artifact :=
    { name := "getUser", title := "", description := ""
      inputSchema := .object [("id", ⟨.scalar .string none, true⟩)] none
      outputSchema := .object [("name", ⟨.scalar .string none, true⟩)] none
      handler :=
        { method := "GET", urlTemplate := "http://host/users/\x7bid\x7d", pathParams := ["id"] } }
  environment := []
  input := .object [("id", .string "a b")]
  upstream := fun _ count ↦ (.ok { status := 200, body := .ok body }, count + 1)
  state := 0

/-- The user that is found is the result; an answer without a name is the error of the last step,
after a request that is sent all the same. -/
theorem result_envelope_lookup :
    (lookup "\x7b\"name\":\"Ada\"\x7d").result.isError = false ∧
      (lookup "\x7b\x7d").sent.length = 1 ∧
      (lookup "\x7b\x7d").result =
        { content := [.text
            "Error executing tool getUser: Invalid response: missing required field '$.name'"]
          structured := none
          isError := true } := by
  have unfailing (c : Attempt Nat) (h : c.firstFailure? = none) : c.result.isError = false := by
    obtain ⟨-, -, -, -, -, failed, -⟩ := result_envelope c
    rw [h] at failed
    exact Bool.eq_false_iff.2 fun error ↦ nomatch failed.1 error
  have none : (lookup "\x7b\"name\":\"Ada\"\x7d").firstFailure?.isNone = true := by decide +kernel
  obtain ⟨e, last, told⟩ : ∃ e, (lookup "\x7b\x7d").firstFailure? = some e ∧
      e.message = "Invalid response: missing required field '$.name'" :=
    Option.map_eq_some_iff.1 (by decide +kernel)
  obtain ⟨-, -, -, -, -, -, text⟩ := result_envelope (lookup "\x7b\x7d")
  have one : (lookup "\x7b\x7d").sent.length = 1 := by decide +kernel
  refine ⟨unfailing _ (Option.isNone_iff_eq_none.1 none), one, (text e last).trans ?_⟩
  rw [told]
  rfl

end Attempt

end Tool

end Toolsmith
