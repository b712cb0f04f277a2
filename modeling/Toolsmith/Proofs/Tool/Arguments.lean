import Toolsmith.Proofs.Compile.Contract
import Toolsmith.Proofs.Tool.Call

/-!
# What a call reads of its arguments

A call reads its arguments in four places: the schema checks the fields that it declares, slots and
query parameters take the values under their names, and the body is the value under the name of the
body. A compiled tool declares a field for each of these names, so a call reads nothing that is not
declared.

The first three places take null for nothing, as far as the field is optional. The body does not:
null is a JSON text like any other, and is sent as one. This is the only difference that null in
place of an optional field makes.

## Main definitions

* `Json.Value.present?`: what an input holds under a name, null aside.

## Main statements

* `Handler.url_congr`, `Compile.draft_handler`: what the places other than the schema look at.
* `Tool.Attempt.agrees_on_declared`: two calls whose arguments agree on the declared fields are the
  same.
* `Tool.Attempt.null_is_absent_iff`: two calls that differ by null in place of an optional field are
  the same, unless a request is sent whose body is the null.
-/

namespace Toolsmith

open Json (Value)

/-! ### What slots and query parameters look at -/

/-- What an input holds under a name, null aside. -/
def Json.Value.present? (input : Value) (name : String) : Option Value :=
  (input.get? name).filter (·.kind ≠ .null)

namespace Handler

variable {h : Handler} {environment : Table String} {input input' : Value}

theorem bind_parameterText?_present? (input : Value) (name : String) :
    (input.present? name).bind Value.parameterText? =
      (input.get? name).bind Value.parameterText? := by
  rw [Value.present?]
  cases input.get? name with
  | none => rfl
  | some v => cases v <;> rfl

theorem filter_isTruthy_present? (input : Value) (name : String) :
    (input.present? name).filter Value.isTruthy = (input.get? name).filter Value.isTruthy := by
  rw [Value.present?]
  cases input.get? name with
  | none => rfl
  | some v => cases v <;> rfl

/-- The URL goes by what is present under the names of the parameters. -/
theorem url_congr
    (path : ∀ name ∈ h.pathParams, input.present? name = input'.present? name)
    (query : ∀ name ∈ h.queryParams, input.present? name = input'.present? name) :
    h.url environment input = h.url environment input' := by
  have slots : h.slotText? environment input = h.slotText? environment input' := by
    funext slot
    rw [slotText?, slotText?]
    split
    next listed =>
      rw [← bind_parameterText?_present? input, path slot (List.contains_iff_mem.1 listed),
        bind_parameterText?_present?]
    next => rfl
  have pairs : h.queryPairs input = h.queryPairs input' := by
    refine List.filterMap_congr fun key hk ↦ ?_
    rw [← filter_isTruthy_present? input, query key hk, filter_isTruthy_present?]
  rw [url, url, fill, fill, slots, pairs]

end Handler

/-! ### What the body looks at -/

namespace Compile

open Collection (Payload Request)

/-- The text that is sent as the body. -/
def bodyText? (h : Handler) (input : Value) : Option String :=
  (if h.sendBody then input.get? bodyField else none).map Value.compact

theorem bodyText?_congr {h : Handler} {input input' : Value}
    (same : h.sendBody = true → input.get? bodyField = input'.get? bodyField) :
    bodyText? h input = bodyText? h input' := by
  rw [bodyText?, bodyText?]
  split
  next sends => rw [same sends]
  next => rfl

/-- A request without a body, with a header that tells the type that one would have. -/
def bare (method : String) (u : Url) : Http.Draft :=
  (Http.Draft.new method u).header "Content-Type" "application/json"

theorem bare_cases (method : String) (u : Url) :
    (∃ e, bare method u = .error e) ∨ ∃ request, bare method u = .ok request ∧
      request.body = none ∧
      request.headers.any (fun h ↦ Http.asciiLower h.1 = "content-type") = true := by
  rw [bare, Http.Draft.new]
  split
  · exact .inl ⟨_, rfl⟩
  · refine .inr ⟨_, rfl, rfl, ?_⟩
    rw [List.any_append, Bool.or_eq_true]
    exact .inr (by decide)

/-- The request of a compiled tool goes by its URL and by the text of its body. -/
theorem draft_handler (r : Request) (p : Payload) (u : Url) (input : Value) :
    (handler r p).draft u input = (bare r.method u).map fun request ↦
      { request with body := bodyText? (handler r p) input } := by
  have headers : (handler r p).withHeaders (.new r.method u) = bare r.method u := rfl
  rw [Handler.draft, bodyText?, show (handler r p).method = r.method from rfl, headers]
  rcases bare_cases r.method u with ⟨e, failed⟩ | ⟨request, made, empty, declared⟩
  · rw [failed]
    split <;> rfl
  · rw [made]
    split
    next body held =>
      rw [held]
      show Except.ok { request with headers := if _ then _ else _, body := _ } = _
      rw [if_pos declared]
      rfl
    next held =>
      rw [held]
      show Except.ok request = Except.ok { request with body := none }
      rw [← empty]

/-- The request of a call without its body, or the step that failed before it. -/
def prepareBare (a : Artifact) (environment : Table String) (input : Value) :
    Except Tool.CallError Http.Draft := do
  (a.inputSchema.validate input).mapError .invalidArguments
  let u ← a.handler.url environment input
  if Http.isToken a.handler.method then return bare a.handler.method u
  else throw (.invalidMethod a.handler.method)

section Prepared

variable {r : Request} {n : Naming} {a : Artifact} {environment : Table String}
  {input input' : Value}

/-- The body is put into a request that is otherwise prepared without it. -/
theorem prepare_eq (compiled : artifact? r n = some a) :
    a.prepare environment input = (prepareBare a environment input).map fun d : Http.Draft ↦
      d.map fun request ↦ { request with body := bodyText? a.handler input } := by
  obtain ⟨p, -, rfl⟩ := artifact?_eq_some compiled
  rw [Artifact.prepare, prepareBare]
  cases (inputSchema p).validate input with
  | error violation => rfl
  | ok =>
    show (handler r p).url environment input >>= _ =
      ((handler r p).url environment input >>= _).map _
    cases (handler r p).url environment input with
    | error e => rfl
    | ok u =>
      show (if Http.isToken r.method then Except.ok ((handler r p).draft u input) else _) =
        Except.map _ (if Http.isToken r.method then Except.ok (bare r.method u) else _)
      rw [draft_handler]
      split <;> rfl

/-- The names that a compiled tool reads are those that are declared as fields. -/
theorem isSome_field?_iff (compiled : artifact? r n = some a) {name : String} :
    (a.inputSchema.field? name).isSome = true ↔
      name ∈ a.handler.pathParams ∨ name ∈ a.handler.queryParams ∨
        a.handler.sendBody = true ∧ name = bodyField := by
  obtain ⟨p, -, rfl⟩ := artifact?_eq_some compiled
  show ((inputSchema p).field? name).isSome = true ↔ _
  rw [inputSchema_eq_object]
  show ((inputFields p).get? name).isSome = true ↔ _
  rw [Option.isSome_iff_ne_none, Ne, Table.get?_eq_none_iff, not_not]
  exact mem_names_inputFields p name

/-- All but the body goes by what is there of the declared fields, where null in place of an
optional field is not. -/
theorem prepareBare_congr (compiled : artifact? r n = some a) {ms ms' : Table Value}
    (same : ∀ name f, a.inputSchema.field? name = some f →
      f.seen (ms.get? name) = f.seen (ms'.get? name) ∧
        (Value.object ms).present? name = (Value.object ms').present? name) :
    prepareBare a environment (.object ms) = prepareBare a environment (.object ms') := by
  have declared (name : String) (read : name ∈ a.handler.pathParams ∨
      name ∈ a.handler.queryParams ∨ a.handler.sendBody = true ∧ name = bodyField) :
      (Value.object ms).present? name = (Value.object ms').present? name := by
    obtain ⟨f, hf⟩ := Option.isSome_iff_exists.1 ((isSome_field?_iff compiled).2 read)
    exact (same name f hf).2
  have url : a.handler.url environment (.object ms) = a.handler.url environment (.object ms') :=
    Handler.url_congr (fun name path ↦ declared name (.inl path))
      fun name query ↦ declared name (.inr (.inl query))
  have valid : a.inputSchema.validate (.object ms) = a.inputSchema.validate (.object ms') := by
    obtain ⟨p, -, rfl⟩ := artifact?_eq_some compiled
    show (inputSchema p).validate _ = (inputSchema p).validate _
    rw [inputSchema_eq_object, Schema.validate, Schema.validate, Schema.validateAt,
      Schema.validateAt]
    refine Schema.validateFields_congr fun f hf ↦ (same f.1 f.2 ?_).1
    show (inputSchema p).field? f.1 = some f.2
    rw [inputSchema_eq_object]
    exact (Table.get?_eq_some_iff (nodup_inputFields p)).2 hf
  rw [prepareBare, prepareBare, valid, url]

/-- Taking null away from an optional field changes nothing but the body. -/
theorem prepareBare_erase (compiled : artifact? r n = some a) {ms : Table Value} {name : String}
    {s : Schema} (optional : a.inputSchema.field? name = some ⟨s, false⟩)
    (null : ms.get? name = some .null) :
    prepareBare a environment (.object ms) =
      prepareBare a environment (.object (ms.erase name)) := by
  refine prepareBare_congr compiled fun other f hf ↦ ?_
  have erased := Table.get?_erase ms name other
  by_cases same : other = name
  · subst same
    rw [if_pos rfl] at erased
    cases optional.symm.trans hf
    show (if false = true then _ else _) = (if false = true then _ else _) ∧
      (Table.get? ms other).filter _ = (Table.get? (ms.erase other) other).filter _
    rw [null, erased]
    exact ⟨rfl, rfl⟩
  · rw [if_neg same] at erased
    show _ ∧ (Table.get? ms other).filter _ = (Table.get? (ms.erase name) other).filter _
    rw [erased]
    exact ⟨rfl, rfl⟩

end Prepared

end Compile

/-! ### Two calls -/

namespace Tool.Attempt

open Collection (Request)
open Compile (bodyField bodyText? prepareBare)

variable {σ : Type}

/-- Whether two calls cannot be told apart: they send the same requests, have the same result and
leave the same state of the upstream behind. -/
def Same (c c' : Attempt σ) : Prop :=
  c.sent = c'.sent ∧ c.result = c'.result ∧ c.after = c'.after

/-- The call with an object of arguments. -/
def on (c : Attempt σ) (arguments : Table Value) : Attempt σ :=
  { c with input := .object arguments }

variable {c : Attempt σ} {ms ms' : Table Value} {r : Request} {n : Naming}

/-- The request that is prepared, if there is one. -/
def requestOf : Except CallError Http.Draft → List Http.Request
  | .ok (.ok request) => [request]
  | _ => []

theorem sent_on (c : Attempt σ) (ms : Table Value) :
    (c.on ms).sent = requestOf (c.artifact.prepare c.environment (.object ms)) := by
  have prepare : c.artifact.prepare c.environment (.object ms) =
      (c.on ms).artifact.prepare (c.on ms).environment (c.on ms).argument := rfl
  rw [prepare]
  rcases (c.on ms).ending with ⟨e, prepared, sent, -, -⟩ | ⟨e, prepared, sent, -, -⟩ |
    ⟨request, e, prepared, -, sent, -, -⟩ | ⟨request, answer, prepared, -, sent, -, -⟩ <;>
    rw [sent, prepared, requestOf]
  · nofun
  · nofun

theorem requestOf_map (x : Except CallError Http.Draft) (f : Http.Request → Http.Request) :
    requestOf (x.map fun d : Http.Draft ↦ d.map f) = (requestOf x).map f := by
  rcases x with e | e | request <;> rfl

/-- Where there is no request, it does not matter what would be made of one. -/
theorem map_eq_map_of_requestOf {x : Except CallError Http.Draft} (h : requestOf x = [])
    (f g : Http.Request → Http.Request) :
    (x.map fun d : Http.Draft ↦ d.map f) = x.map fun d : Http.Draft ↦ d.map g := by
  rcases x with e | e | request
  · rfl
  · rfl
  · cases h

/-- Calls for which the same is prepared are the same. -/
theorem same_of_prepare
    (h : c.artifact.prepare c.environment (.object ms) =
      c.artifact.prepare c.environment (.object ms')) : (c.on ms).Same (c.on ms') := by
  have outcome : (c.on ms).outcome = (c.on ms').outcome := by
    show c.artifact.executeVia c.upstream c.environment (.object ms) c.state =
      c.artifact.executeVia c.upstream c.environment (.object ms') c.state
    have normal (ms : Table Value) : Artifact.normalInput (.object ms) = .object ms := rfl
    rw [Artifact.executeVia, Artifact.executeVia, normal, normal, h]
  refine ⟨?_, ?_, ?_⟩
  · rw [sent_on, sent_on, h]
  · rw [result_eq, result_eq, outcome]
    rfl
  · rw [after_eq, after_eq, outcome]

/-- Arguments that no field declares have no effect: two calls of a compiled tool whose arguments
agree on the declared fields are the same, whatever other arguments there are and in whatever order
they stand. -/
theorem agrees_on_declared (compiled : Compile.artifact? r n = some c.artifact)
    (agree : ∀ name, (c.artifact.inputSchema.field? name).isSome = true →
      ms.get? name = ms'.get? name) : (c.on ms).Same (c.on ms') := by
  have bare : prepareBare c.artifact c.environment (.object ms) =
      prepareBare c.artifact c.environment (.object ms') := by
    refine Compile.prepareBare_congr compiled fun name f hf ↦ ?_
    have held : (Value.object ms).get? name = (Value.object ms').get? name :=
      agree name (by rw [hf]; rfl)
    rw [Value.present?, Value.present?, held, agree name (by rw [hf]; rfl)]
    exact ⟨rfl, rfl⟩
  have body : bodyText? c.artifact.handler (.object ms) =
      bodyText? c.artifact.handler (.object ms') :=
    Compile.bodyText?_congr fun sends ↦
      agree _ ((Compile.isSome_field?_iff compiled).2 (.inr (.inr ⟨sends, rfl⟩)))
  apply same_of_prepare
  rw [Compile.prepare_eq compiled, Compile.prepare_eq compiled, bare, body]

/-- A request to file an object under an id, with a tag. -/
def filing : Request :=
  { payload := some
      { method := "PUT"
        address :=
          { raw := "http://files.test/:id"
            pathVariables := [{ key := "id" }]
            query := [{ key := "tag" }] }
        body := some { raw := some "\x7b\"open\":true\x7d" } } }

/-- A call of its tool, answered by what is sent; the state counts the requests. -/
def filingCall : Attempt Nat where
  artifact := (Compile.artifact? filing ⟨"file", "File", ""⟩).get rfl
  environment := []
  input := .object []
  upstream := fun request count ↦
    (.ok { status := 200, body := .ok (request.body.getD "[]") }, count + 1)
  state := 0

theorem agrees_on_declared_filing :
    let body : Value := .object [("open", .bool false)]
    let ms : Table Value := [("id", .string "7"), ("user", .bool true), ("body", body)]
    let ms' : Table Value := [("body", body), ("id", .string "7"), ("size", .null)]
    (∀ name, (filingCall.artifact.inputSchema.field? name).isSome = true →
        ms.get? name = ms'.get? name) ∧
      (filingCall.on ms).sent.length = 1 ∧ (filingCall.on ms).Same (filingCall.on ms') := by
  intro body ms ms'
  have agree (name : String)
      (declared : (filingCall.artifact.inputSchema.field? name).isSome = true) :
      ms.get? name = ms'.get? name := by
    rcases (Compile.isSome_field?_iff (r := filing) rfl).1 declared with path | query | ⟨-, rfl⟩
    · cases List.mem_singleton.1 path
      rfl
    · cases List.mem_singleton.1 query
      rfl
    · rfl
  exact ⟨agree, by decide +kernel, agrees_on_declared (r := filing) rfl agree⟩

/-- A call whose body is null sends the text of null, and one without a body sends none. -/
theorem sent_null_body (compiled : Compile.artifact? r n = some c.artifact) {s : Schema}
    (optional : c.artifact.inputSchema.field? bodyField = some ⟨s, false⟩)
    (null : ms.get? bodyField = some .null) (sends : c.artifact.handler.sendBody = true) :
    (∀ request ∈ (c.on (ms.erase bodyField)).sent, request.body = none) ∧
      (c.on ms).sent = ((c.on (ms.erase bodyField)).sent.map fun request ↦
        { request with body := some "null" }) ∧
      ((c.on (ms.erase bodyField)).sent = [] → (c.on ms).Same (c.on (ms.erase bodyField))) := by
  have held : bodyText? c.artifact.handler (.object ms) = some "null" := by
    rw [bodyText?, if_pos sends]
    exact congrArg (Option.map Value.compact) null
  have absent : bodyText? c.artifact.handler (.object (ms.erase bodyField)) = none := by
    have erased := (Table.get?_erase ms bodyField bodyField).trans (if_pos rfl)
    rw [bodyText?, if_pos sends]
    exact congrArg (Option.map Value.compact) erased
  have full : c.artifact.prepare c.environment (.object ms) = _ := Compile.prepare_eq compiled
  have without : c.artifact.prepare c.environment (.object (ms.erase bodyField)) = _ :=
    Compile.prepare_eq compiled
  rw [Compile.prepareBare_erase compiled optional null, held] at full
  rw [absent] at without
  refine ⟨?_, ?_, fun none ↦ ?_⟩
  · rw [sent_on, without, requestOf_map]
    intro request hr
    obtain ⟨_, -, rfl⟩ := List.mem_map.1 hr
    rfl
  · rw [sent_on, sent_on, full, without, requestOf_map, requestOf_map, List.map_map]
    rfl
  · rw [sent_on, without, requestOf_map, List.map_eq_nil_iff] at none
    apply same_of_prepare
    rw [full, without]
    exact map_eq_map_of_requestOf none _ _

/-- Null in place of an optional field means that it is absent, and taking it away leaves a call the
same, if and only if it is not the body of a request that is sent: such a request has no body where
there is none, and the text of null where it is null. -/
theorem null_is_absent_iff (compiled : Compile.artifact? r n = some c.artifact) {name : String}
    {s : Schema} (optional : c.artifact.inputSchema.field? name = some ⟨s, false⟩)
    (null : ms.get? name = some .null) :
    ((c.on ms).Same (c.on (ms.erase name)) ↔
        ¬ (c.artifact.handler.sendBody = true ∧ name = bodyField ∧
          (c.on (ms.erase name)).sent ≠ [])) ∧
      (c.artifact.handler.sendBody = true → name = bodyField →
        (∀ request ∈ (c.on (ms.erase name)).sent, request.body = none) ∧
          (c.on ms).sent = (c.on (ms.erase name)).sent.map fun request ↦
            { request with body := some "null" }) := by
  by_cases body : c.artifact.handler.sendBody = true ∧ name = bodyField
  · obtain ⟨sends, rfl⟩ := body
    obtain ⟨empty, sent, same⟩ := sent_null_body compiled optional null sends
    refine ⟨⟨?_, fun h ↦ same (not_not.1 fun some ↦ h ⟨sends, rfl, some⟩)⟩,
      fun _ _ ↦ ⟨empty, sent⟩⟩
    -- a request that is sent shows by its body which of the two calls it is
    rintro ⟨alike, -⟩ ⟨-, -, some⟩
    obtain ⟨request, hr⟩ := List.exists_mem_of_ne_nil _ some
    have none := empty request hr
    rw [← alike, sent] at hr
    obtain ⟨_, -, rfl⟩ := List.mem_map.1 hr
    cases none
  · have same : (c.on ms).Same (c.on (ms.erase name)) := by
      have text : bodyText? c.artifact.handler (.object ms) =
          bodyText? c.artifact.handler (.object (ms.erase name)) := by
        refine Compile.bodyText?_congr fun sends ↦ ?_
        have other : bodyField ≠ name := fun he ↦ body ⟨sends, he.symm⟩
        exact ((Table.get?_erase ms name bodyField).trans (if_neg other)).symm
      apply same_of_prepare
      rw [Compile.prepare_eq compiled, Compile.prepare_eq compiled,
        Compile.prepareBare_erase compiled optional null, text]
    exact ⟨iff_of_true same fun h ↦ body ⟨h.1, h.2.1⟩, fun sends he ↦ absurd ⟨sends, he⟩ body⟩

/-- A tag that is null is not sent, no more than one that is absent. -/
theorem null_is_absent_iff_filing :
    let body : Value := .object [("open", .bool false)]
    let ms : Table Value := [("tag", .null), ("id", .string "7"), ("body", body)]
    (filingCall.on ms).sent.length = 1 ∧
      (filingCall.on ms).Same (filingCall.on (ms.erase "tag")) := by
  intro body ms
  obtain ⟨s, optional⟩ : ∃ s, filingCall.artifact.inputSchema.field? "tag" = some ⟨s, false⟩ :=
    ⟨_, rfl⟩
  have null : ms.get? "tag" = some .null := rfl
  obtain ⟨same, -⟩ := null_is_absent_iff (r := filing) rfl optional null
  exact ⟨by decide +kernel, same.2 fun body ↦ absurd body.2.1 (by decide)⟩

/-- The body of a compiled tool is optional, and null has not the shape of one, so that it can only
stand for no body. It is sent, though, and the upstream can tell it from no body at all. -/
theorem null_is_absent_fails :
    let ms : Table Value := [("id", .string "7"), ("body", .null)]
    Compile.artifact? filing ⟨"file", "File", ""⟩ = some filingCall.artifact ∧
      (∃ s, filingCall.artifact.inputSchema.field? "body" = some ⟨s, false⟩ ∧
        errorOf? (s.validate .null) = some (.wrongKind [] .object .null)) ∧
      ms.get? "body" = some .null ∧
      (filingCall.on ms).sent.map (·.body) = [some "null"] ∧
      (filingCall.on (ms.erase "body")).sent.map (·.body) = [none] ∧
      (filingCall.on ms).result.text? = some "null" ∧
      (filingCall.on (ms.erase "body")).result.text? = some "[]" :=
  ⟨rfl, ⟨_, rfl, by decide +kernel⟩, rfl, by decide +kernel, by decide +kernel,
    by decide +kernel, by decide +kernel⟩

end Tool.Attempt

end Toolsmith
