import Toolsmith.Proofs.Collection.Document
import Toolsmith.Proofs.Compile.Contract

/-!
# Query parameters of compiled requests

A URL is compiled without its query string, as the parameters are put on again from what the
handler lists. What is listed comes from the `query` array of the URL alone. A URL that is a plain
text has no such array, so all parameters in its query string are lost; a URL in parts keeps each
parameter that its array lists.

## Main definitions

* `Document.urlIn?`: the URL in the item of a request, spelled in either way.
* `Document.queryNames`: the parameters in the query string of a URL.

## Main statements

* `Compile.artifact?_queryParams`: a parameter in a query string is kept if and only if the URL is
  no plain text.
* `Compile.artifact?_queryParams_fails`: a parameter of a plain text is lost.
-/

namespace Toolsmith

open Json (Decoder Node Value)

namespace Collection.Document

open Json.Form (given? given?_singleton)
open Json.Value (under)

/-! ### URLs in documents -/

/-- The value that members give to a name once. -/
def only? (name : String) (ms : List (String × Value)) : Option Value :=
  match under name ms with
  | [v] => some v
  | _ => none

/-- The URL in the item of a request; a bare request is its own URL. -/
def urlIn? (item : Value) : Option Value :=
  ((item.record? ["name", "description", "item", "request", "response"]).bind
      (only? "request")).bind fun request ↦
    match request with
    | .string url => some (.string url)
    | _ => (request.record? ["method", "url", "body", "description"]).bind (only? "url")

/-- The members of a URL in parts. -/
def partsOf? (url : Value) : Option (List (String × Value)) :=
  url.record? ["raw", "protocol", "host", "port", "path", "query", "variable"]

/-- The text of a URL. -/
def rawOf? (url : Value) : Option String :=
  match url with
  | .string raw => some raw
  | _ => ((partsOf? url).bind (only? "raw")).bind Value.string?

/-- The keys of the parameters in the `query` array of a URL. -/
def listedKeys (url : Value) : List String :=
  ((((partsOf? url).bind (only? "query")).bind Value.array?).getD []).filterMap fun parameter ↦
    ((parameter.record? ["key", "value", "description"]).bind (only? "key")).bind Value.string?

/-- The query string of a URL: what follows the first question mark, up to the fragment. -/
def queryString (raw : List Char) : List Char :=
  ((raw.takeWhile (· ≠ '#')).dropWhile (· ≠ '?')).drop 1

/-- The names of letters and digits among those of the parameters in the query string of a URL. -/
def queryNames (raw : String) : List String :=
  ((List.splitOn '&' (queryString raw.toList)).map (·.takeWhile (· ≠ '='))).filterMap fun name ↦
    if name ≠ [] ∧ name.all Char.isAlphanum then some (String.ofList name) else none

theorem ne_empty_of_mem_queryNames {raw name : String} (h : name ∈ queryNames raw) :
    name ≠ "" := by
  obtain ⟨cs, -, hcs⟩ := List.mem_filterMap.1 h
  split at hcs
  next plain =>
    cases hcs
    simpa using plain.1
  next => cases hcs

/-! ### URLs that are read -/

section Reading

variable {α β : Type}

/-- A function that may be missing is applied to a value that may be missing if both are there. -/
theorem seq_eq_some {f : Option (α → β)} {a : Option α} {b : β} :
    f <*> a = some b ↔ ∃ g x, f = some g ∧ a = some x ∧ g x = b := by
  cases f <;> cases a <;> simp [Seq.seq]

theorem exists_of_mapM {f : α → Option β} {l : List α} {l' : List β} (h : l.mapM f = some l')
    {a : α} (ha : a ∈ l) : ∃ b ∈ l', f a = some b := by
  induction l generalizing l' with
  | nil => cases ha
  | cons x l ih =>
    rw [List.mapM_cons] at h
    obtain ⟨b, hb, h⟩ := Option.bind_eq_some_iff.1 h
    obtain ⟨rest, hrest, h⟩ := Option.bind_eq_some_iff.1 h
    cases h
    rcases List.mem_cons.1 ha with rfl | ha
    · exact ⟨b, List.mem_cons_self, hb⟩
    · obtain ⟨c, hc, read⟩ := ih hrest ha
      exact ⟨c, List.mem_cons_of_mem _ hc, read⟩

/-- A member that is there once and not null is what a field is read from. -/
theorem given?_of_only? {name : String} {ms : List (String × Value)} {v : Value}
    (h : only? name ms = some v) (some : v.kind ≠ .null) (read : Decoder α) :
    given? read (under name ms) = (read (.ofValue v)).toOption.map Option.some := by
  rw [only?] at h
  split at h
  next he =>
    cases h
    rw [he, given?_singleton some]
  next => cases h

end Reading

section Records

variable {ms : List (String × Value)}

/-- The key of a parameter is read from its member. -/
theorem key_of_parameterOf? {v : Variable} (h : parameterOf? ms = some v) :
    given? .text (under "key" ms) = some v.key := by
  simp only [parameterOf?, seq_eq_some, Option.map_eq_map, Option.map_eq_some_iff] at h
  obtain ⟨_, _, ⟨_, _, ⟨_, key, rfl⟩, -, rfl⟩, -, rfl⟩ := h
  exact key

/-- The query parameters of an address are read from theirs. -/
theorem query_of_addressOf? {a : Address} (h : addressOf? ms = some a) :
    ∃ query, given? (.list parameter) (under "query" ms) = some query ∧
      a.query = query.getD [] := by
  simp only [addressOf?, seq_eq_some, Option.map_eq_map, Option.map_eq_some_iff] at h
  obtain ⟨_, _, ⟨_, query, ⟨_, _, ⟨_, _, ⟨_, _, ⟨_, _, ⟨_, -, rfl⟩, -, rfl⟩, -, rfl⟩, -, rfl⟩,
    -, rfl⟩, given, rfl⟩, -, rfl⟩ := h
  exact ⟨query, given, rfl⟩

/-- The address of a request is read from its URL. -/
theorem address_of_requestOf? {p : Payload × Option String} (h : requestOf? ms = some p) :
    ∃ url, given? address (under "url" ms) = some url ∧ p.1.address = url.getD {} := by
  simp only [requestOf?, seq_eq_some, Option.map_eq_map, Option.map_eq_some_iff] at h
  obtain ⟨_, _, ⟨_, _, ⟨_, url, ⟨_, -, rfl⟩, given, rfl⟩, -, rfl⟩, -, rfl⟩ := h
  exact ⟨url, given, rfl⟩

/-- The payload of a request is read from the request of its item. -/
theorem payload_of_itemOf? {children : Decoder (List Item)} {r : Request}
    (h : itemOf? children ms = some (.request r)) :
    ∃ q, given? request (under "request" ms) = some q ∧ r.payload = q.map (·.1) := by
  simp only [itemOf?, seq_eq_some, Option.map_eq_map, Option.map_eq_some_iff] at h
  obtain ⟨_, _, ⟨_, q, ⟨_, is, ⟨_, _, ⟨_, -, rfl⟩, -, rfl⟩, -, rfl⟩, given, rfl⟩, -, made⟩ := h
  cases is with
  | some => cases made
  | none =>
    cases made
    exact ⟨q, given, rfl⟩

end Records

theorem exists_of_mem_getD {α : Type} {l? : Option (List α)} {a : α} (h : a ∈ l?.getD []) :
    ∃ l, l? = some l ∧ a ∈ l := by
  cases l? with
  | none => cases h
  | some l => exact ⟨l, rfl, h⟩

/-- The keys that a URL lists are those of parameters that are read from it. -/
theorem mem_queryKeys_of_mem_listedKeys {url : Value} {a : Address}
    (read : (address (.ofValue url)).toOption = some a) {name : String}
    (listed : name ∈ listedKeys url) (known : name ≠ "") : name ∈ a.queryKeys := by
  -- the array of the query and the parameter in it, as they stand in the document
  obtain ⟨w, member, named⟩ := List.mem_filterMap.1 listed
  obtain ⟨ws, array, member⟩ := exists_of_mem_getD member
  obtain ⟨array, once, items⟩ := Option.bind_eq_some_iff.1 array
  obtain ⟨ms, parts, once⟩ := Option.bind_eq_some_iff.1 once
  obtain ⟨key, keyed, text⟩ := Option.bind_eq_some_iff.1 named
  obtain ⟨fields, record, keyed⟩ := Option.bind_eq_some_iff.1 keyed
  cases array <;> cases items
  cases key <;> cases text
  -- the query and the parameter, as they are read
  rw [toOption_address, Value.string?_of_record? parts] at read
  have read : addressOf? ms = some a := (congrArg (·.bind addressOf?) parts).symm.trans read
  obtain ⟨query, given, queried⟩ := query_of_addressOf? read
  rw [given?_of_only? once nofun, Json.toOption_list_array] at given
  obtain ⟨vs, all, rfl⟩ := Option.map_eq_some_iff.1 given
  obtain ⟨v, hv, one⟩ := exists_of_mapM all member
  rw [toOption_parameter, record] at one
  have given := key_of_parameterOf? one
  rw [given?_of_only? keyed nofun] at given
  have key : v.key = some name := (Option.some.inj given).symm
  refine List.mem_map.2 ⟨v, queried ▸ hv, ?_⟩
  simp [Variable.keyOr, key, known]

/-- A request goes where its URL leads. -/
theorem address_of_request {asked url : Value} {p : Payload × Option String}
    (read : (request (.ofValue asked)).toOption = some p)
    (h : (∃ text, asked = .string text ∧ url = .string text) ∨
      ∃ ms, asked.record? ["method", "url", "body", "description"] = some ms ∧
        only? "url" ms = some url)
    (known : url.kind ≠ .null) : (address (.ofValue url)).toOption = some p.1.address := by
  rw [toOption_request] at read
  rcases h with ⟨text, rfl, rfl⟩ | ⟨ms, record, once⟩
  · cases read
    exact toOption_address _
  · rw [Value.string?_of_record? record, record] at read
    obtain ⟨url?, given, led⟩ := address_of_requestOf? read
    rw [given?_of_only? once known] at given
    obtain ⟨a, reads, rfl⟩ := Option.map_eq_some_iff.1 given
    rw [reads, led]
    rfl

/-- The item of a request with a URL has a payload, which goes where the URL leads. -/
theorem exists_payload_of_urlIn? {depth : Nat} {item url : Value} {r : Request}
    (read : Document.item depth (.ofValue item) = .ok (.request r))
    (h : urlIn? item = some url) (known : url.kind ≠ .null) :
    ∃ p, r.payload = some p ∧ (address (.ofValue url)).toOption = some p.address := by
  cases depth with
  | zero => cases read
  | succ depth =>
    rw [← Json.toOption_eq_some, toOption_item] at read
    obtain ⟨ms, record, read⟩ := Option.bind_eq_some_iff.1 read
    obtain ⟨q, given, payload⟩ := payload_of_itemOf? read
    rw [urlIn?, record, Option.bind_some] at h
    obtain ⟨asked, once, h⟩ := Option.bind_eq_some_iff.1 h
    have spelled : (∃ text, asked = .string text ∧ url = .string text) ∨
        ∃ ms, asked.record? ["method", "url", "body", "description"] = some ms ∧
          only? "url" ms = some url := by
      cases asked with
      | string text =>
        cases h
        exact .inl ⟨text, rfl, rfl⟩
      | null | bool | number | array | object => exact .inr (Option.bind_eq_some_iff.1 h)
    have asks : asked.kind ≠ .null := by
      rintro null
      cases asked <;> cases null
      cases h
    rw [given?_of_only? once asks] at given
    obtain ⟨p, reads, rfl⟩ := Option.map_eq_some_iff.1 given
    exact ⟨p.1, payload, address_of_request reads spelled known⟩

end Collection.Document

/-! ### Query strings -/

namespace Compile

open Collection (Payload Request)
open Collection.Document

/-- A parameter that is named in the query string of a URL is listed by the handler, and has a
field, if and only if the URL is in parts. A URL that is a plain text leaves nothing but the field
of a body that is sent. -/
theorem artifact?_queryParams {depth : Nat} {item url : Value} {r : Request} {raw : String}
    (read : Collection.Document.item depth (.ofValue item) = .ok (.request r))
    (given : urlIn? item = some url) (text : rawOf? url = some raw)
    (listed : url.kind ≠ .string → ∀ name ∈ queryNames raw, name ∈ listedKeys url) (n : Naming) :
    ∃ a, artifact? r n = some a ∧ ∀ name ∈ queryNames raw,
      (name ∈ a.handler.queryParams ↔ url.kind ≠ .string) ∧
      ((a.inputSchema.field? name).isSome = true ↔
        url.kind ≠ .string ∨ a.handler.sendBody = true ∧ name = bodyField) := by
  have known : url.kind ≠ .null := by
    rintro null
    cases url <;> cases null
    cases text
  obtain ⟨p, payload, reads⟩ := exists_payload_of_urlIn? read given known
  have compiled : artifact? r n = some
      { name := n.identifier, title := n.title, description := n.description
        inputSchema := inputSchema p, outputSchema := outputSchema r.responses
        handler := handler r p } := by
    rw [artifact?, payload]
    rfl
  refine ⟨_, compiled, fun name hn ↦ ?_⟩
  have field : ((inputSchema p).field? name).isSome = true ↔
      name ∈ p.address.pathKeys ∨ name ∈ p.address.queryKeys ∨
        p.rawBody?.isSome = true ∧ name = bodyField := by
    rw [inputSchema_eq_object, ← mem_names_inputFields]
    show ((inputFields p).get? name).isSome = true ↔ _
    rw [Option.isSome_iff_ne_none, ne_eq, Table.get?_eq_none_iff, not_not]
  show (name ∈ p.address.queryKeys ↔ _) ∧ (((inputSchema p).field? name).isSome = true ↔ _)
  by_cases plain : url.kind = .string
  · -- A plain text is read as a URL without variables.
    cases url <;> cases plain
    rw [toOption_address] at reads
    have bare : p.address = { raw := _ } := (Option.some.inj reads).symm
    have query : name ∉ p.address.queryKeys := by
      rw [bare]
      exact List.not_mem_nil
    have path : name ∉ p.address.pathKeys := by
      rw [bare]
      exact List.not_mem_nil
    refine ⟨iff_of_false query fun other ↦ other rfl, field.trans ?_⟩
    rw [or_iff_right path, or_iff_right query]
    exact (or_iff_right fun other ↦ other rfl).symm
  · have kept := mem_queryKeys_of_mem_listedKeys reads (listed plain name hn)
      (ne_empty_of_mem_queryNames hn)
    exact ⟨iff_of_true kept plain, iff_of_true (field.2 (.inr (.inl kept))) (.inl plain)⟩

/-- The item of a search whose URL is in parts. -/
def searchInParts : Value :=
  .object
    [("name", .string "search"), ("request", .object
      [("url", .object
        [("raw", .string "http://a.test/items?q=abc&page=2#top"),
          ("query", .array
            [.object [("key", .string "q")],
              .object [("key", .string "page"), ("value", .string "2")]])])])]

theorem artifact?_queryParams_inParts :
    ∃ r a, Collection.Document.item 1 (.ofValue searchInParts) = .ok (.request r) ∧
      artifact? r ⟨"search", "", ""⟩ = some a ∧
      queryNames "http://a.test/items?q=abc&page=2#top" = ["q", "page"] ∧
      "q" ∈ a.handler.queryParams ∧ (a.inputSchema.field? "page").isSome = true := by
  obtain ⟨r, read⟩ : ∃ r, Collection.Document.item 1 (.ofValue searchInParts) = .ok (.request r) :=
    ⟨_, rfl⟩
  have names : queryNames "http://a.test/items?q=abc&page=2#top" = ["q", "page"] := by decide
  obtain ⟨a, compiled, kept⟩ := artifact?_queryParams read rfl rfl
    (fun _ ↦ by decide) ⟨"search", "", ""⟩
  rw [names] at kept
  exact ⟨r, a, read, compiled, names, (kept "q" (by simp)).1.2 nofun,
    (kept "page" (by simp)).2.2 (.inl nofun)⟩

/-- The search parameter of a bare URL is neither listed nor a field. -/
theorem artifact?_queryParams_fails :
    ∃ r a, Collection.Document.item 1 (.ofValue
        (.object [("request", .string "http://api.test/items?q=abc")])) = .ok (.request r) ∧
      artifact? r ⟨"search", "", ""⟩ = some a ∧
      "q" ∈ queryNames "http://api.test/items?q=abc" ∧
      a.handler.queryParams = [] ∧ a.inputSchema.field? "q" = none :=
  ⟨_, _, rfl, rfl, by decide, rfl, rfl⟩

end Compile

end Toolsmith
