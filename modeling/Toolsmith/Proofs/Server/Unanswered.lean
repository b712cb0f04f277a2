import Mathlib.Algebra.Group.Int.Defs
import Toolsmith.Proofs.Json.Members
import Toolsmith.Proofs.Json.RoundTrip
import Toolsmith.Server.Basic

/-!
# Messages that are not answered

A message is a request if it can be read as one, and else a notification, which is not answered. So
whatever keeps an object from being read as a request, without keeping it from being read as a
notification, keeps it from being answered: not only an id that is missing, but also one that is
neither a text nor a whole number of 64 bits, and one that is repeated. A repetition of any other
member that both kinds have keeps the object from being read at all, which is answered.

## Main definitions

* `Server.RequestId.ofValue?`: the id that a value spells.
* `Server.Message.Unrepeated`, `Server.Message.idOf?`: what makes an object a message, and a
  request.

## Main statements

* `Server.Message.toOption_decode_object`: what an object is read as.
* `Server.answer_eq_none_iff`: the objects that are not answered.
-/

namespace Toolsmith

namespace Server

open Json (Decoder Document Form Member Node Position Value)

/-! ### Ids -/

/-- The id that a value spells: a text or a whole number of 64 bits. -/
def RequestId.ofValue? : Value → Option RequestId
  | .string s => some (.text s)
  | .number (.integer n) => if -2 ^ 63 ≤ n ∧ n < 2 ^ 63 then some (.number n) else none
  | _ => none

theorem RequestId.decode_goesBy : Decoder.GoesBy RequestId.decode RequestId.ofValue? := by
  intro n v h
  have number : (Decoder.integer64 n).toOption = _ := Decoder.integer_goesBy _ _ _ h
  have text := Decoder.text_goesBy h
  rw [RequestId.decode, Json.oneOf, h]
  simp only [bind, Except.bind, List.findSome?_cons, List.findSome?_nil, Json.toOption_map, number,
    text]
  cases v with
  | number n =>
    cases n with
    | integer n =>
      have range : -9223372036854775808 ≤ n ∧ n ≤ 9223372036854775807 ↔
          -2 ^ 63 ≤ n ∧ n < 2 ^ 63 := by omega
      by_cases small : -2 ^ 63 ≤ n ∧ n < 2 ^ 63
      · simp only [range, ofValue?, if_pos small]
        rfl
      · simp only [range, ofValue?, if_neg small]
        rfl
    | double => rfl
  | null | bool | string | array | object => rfl

theorem RequestId.eq_toJson_of_ofValue? {v : Value} {id : RequestId} (h : ofValue? v = some id) :
    v = id.toJson := by
  unfold ofValue? at h
  split at h
  · exact Option.some.inj h ▸ rfl
  · split_ifs at h
    exact Option.some.inj h ▸ rfl
  · cases h

/-! ### Messages -/

namespace Message

/-- The members that requests and notifications have in common. -/
def common : List String :=
  ["jsonrpc", "method", "params"]

/-- Whether no member is repeated that requests and notifications have in common. -/
def Unrepeated (names : List String) : Prop :=
  ∀ name ∈ common, names.count name ≤ 1

instance (names : List String) : Decidable (Unrepeated names) :=
  inferInstanceAs (Decidable (∀ name ∈ common, _))

/-- The call that the members of an object spell. -/
def callOf (version method : String) (members : Table Value) : Call where
  version
  method
  params := (members.get? "params").filter (·.kind ≠ .null)

/-- The id that the members of an object spell, unless the name is repeated. -/
def idOf? (names : List String) (members : Table Value) : Option RequestId :=
  if names.count "id" ≤ 1 then (members.get? "id").bind RequestId.ofValue? else none

theorem unrepeated_iff {names : List String} :
    Unrepeated names ↔
      names.count "jsonrpc" ≤ 1 ∧ names.count "method" ≤ 1 ∧ names.count "params" ≤ 1 := by
  simp [Unrepeated, common]

section Object

variable {ms : List Member} {u : Table Value} {start stop : Option Position}
  {version method : String}

theorem toOption_decodeNotification_object (h : Node.table ms [] = .ok u)
    (versioned : u.get? "jsonrpc" = some (.string version))
    (named : u.get? "method" = some (.string method)) :
    (decodeNotification (.object start ms stop)).toOption =
      if Unrepeated (Member.names ms) then
        some (.notification (callOf version method u))
      else none := by
  obtain ⟨readable, -⟩ := Node.readable_of_table h
  rw [decodeNotification, Form.toOption_decode_object, Form.read?_seq (by decide) readable,
    Form.read?_seq (by decide) readable, Form.read?_map readable,
    Form.read?_required h Decoder.text_goesBy, Form.read?_required h Decoder.text_goesBy,
    Form.read?_omissible_any h, versioned, named]
  simp only [unrepeated_iff]
  by_cases hv : (Member.names ms).count "jsonrpc" ≤ 1 <;>
    by_cases hm : (Member.names ms).count "method" ≤ 1 <;>
    by_cases hp : (Member.names ms).count "params" ≤ 1 <;>
    simp [hv, hm, hp, Value.string?, callOf]

theorem toOption_decodeRequest_object (h : Node.table ms [] = .ok u)
    (versioned : u.get? "jsonrpc" = some (.string version))
    (named : u.get? "method" = some (.string method)) :
    (decodeRequest (.object start ms stop)).toOption =
      if Unrepeated (Member.names ms) then
        (idOf? (Member.names ms) u).map fun id ↦ .request id (callOf version method u)
      else none := by
  obtain ⟨readable, -⟩ := Node.readable_of_table h
  rw [decodeRequest, Form.toOption_decode_object, Form.read?_seq (by decide) readable,
    Form.read?_seq (by decide) readable, Form.read?_seq (by decide) readable,
    Form.read?_map readable, Form.read?_required h Decoder.text_goesBy,
    Form.read?_required h RequestId.decode_goesBy, Form.read?_required h Decoder.text_goesBy,
    Form.read?_omissible_any h, versioned, named, ← idOf?]
  simp only [unrepeated_iff]
  by_cases hv : (Member.names ms).count "jsonrpc" ≤ 1 <;>
    by_cases hm : (Member.names ms).count "method" ≤ 1 <;>
    by_cases hp : (Member.names ms).count "params" ≤ 1 <;>
    cases idOf? (Member.names ms) u <;>
    simp [hv, hm, hp, Value.string?, callOf]

/-- An object is read as a message if no member is repeated that both kinds have, and as a request
if it has an id. -/
theorem toOption_decode_object (h : Node.table ms [] = .ok u)
    (versioned : u.get? "jsonrpc" = some (.string version))
    (named : u.get? "method" = some (.string method)) :
    (decode (.object start ms stop)).toOption =
      if Unrepeated (Member.names ms) then
        some (match idOf? (Member.names ms) u with
          | some id => .request id (callOf version method u)
          | none => .notification (callOf version method u))
      else none := by
  have readable : (Node.object start ms stop).value = .ok (.object u) := by
    rw [Node.value, h]
    rfl
  have choices : (decode (.object start ms stop)).toOption =
      (decodeRequest (.object start ms stop)).toOption.or
        (decodeNotification (.object start ms stop)).toOption := by
    rw [decode, Json.oneOf, readable]
    simp only [bind, Except.bind, List.findSome?_cons, List.findSome?_nil]
    cases (decodeRequest (.object start ms stop)).toOption <;>
      cases (decodeNotification (.object start ms stop)).toOption <;> rfl
  rw [choices, toOption_decodeRequest_object h versioned named,
    toOption_decodeNotification_object h versioned named]
  split
  · cases idOf? (Member.names ms) u <;> rfl
  · rfl

end Object

theorem toOption_parse {text : String} {members : Table Value} {version method : String}
    (object : Json.parse text = .ok (.object members))
    (versioned : members.get? "jsonrpc" = some (.string version))
    (named : members.get? "method" = some (.string method)) :
    (parse text).toOption =
      if Unrepeated (Json.namesIn text) then
        some (match idOf? (Json.namesIn text) members with
          | some id => .request id (callOf version method members)
          | none => .notification (callOf version method members))
      else none := by
  obtain ⟨start, ms, stop, root, table, trailing⟩ := Json.exists_object_of_parse object
  have names : Json.namesIn text = Member.names ms := by rw [Json.namesIn, root]
  rw [names, ← toOption_decode_object table versioned named, parse, Document.decode, root, trailing]
  cases decode (.object start ms stop) <;> rfl

/-- Whatever is read as a notification is one. -/
theorem exists_of_decodeNotification {n : Node} {m : Message} (h : decodeNotification n = .ok m) :
    ∃ c, m = .notification c :=
  Form.Yields.decode (P := fun m ↦ ∃ c, m = .notification c)
    (.seq (.seq (.map (fun _ _ _ _ _ _ ↦ ⟨_, rfl⟩) (.trivial _)) (.trivial _)) (.trivial _)) h

/-- No notification is a request, so a request has been read as one. -/
theorem decodeRequest_of_parse {text : String} {id : RequestId} {c : Call}
    (parsed : parse text = .ok (.request id c)) :
    decodeRequest (Document.ofText text).root = .ok (.request id c) := by
  obtain ⟨m, decoded, checked⟩ := bind_eq_ok.1 parsed
  obtain ⟨-, made⟩ := check_bind_eq_ok.1 checked
  cases made
  obtain ⟨v, -, chosen⟩ := bind_eq_ok.1 decoded
  rw [List.findSome?_cons] at chosen
  cases asRequest : decodeRequest (Document.ofText text).root with
  | ok m =>
    rw [asRequest] at chosen
    exact congrArg Except.ok (Except.ok.inj chosen)
  | error f =>
    rw [asRequest] at chosen
    cases asNotification : decodeNotification (Document.ofText text).root with
    | ok m =>
      obtain ⟨d, rfl⟩ := exists_of_decodeNotification asNotification
      rw [List.findSome?_cons, asNotification] at chosen
      cases chosen
    | error g =>
      rw [List.findSome?_cons, asNotification] at chosen
      cases chosen

/-- The id of a request that is spelled as an object is the one that stands there. -/
theorem get?_id_of_parse {text : String} {id : RequestId} {c : Call} {members : Table Value}
    (parsed : parse text = .ok (.request id c))
    (object : Json.parse text = .ok (.object members)) :
    members.get? "id" = some id.toJson := by
  obtain ⟨start, ms, stop, root, table, -⟩ := Json.exists_object_of_parse object
  obtain ⟨readable, -⟩ := Node.readable_of_table table
  have decoded := Json.toOption_eq_some.2 (decodeRequest_of_parse parsed)
  rw [root, decodeRequest, Form.toOption_decode_object, Form.read?_seq (by decide) readable,
    Form.read?_seq (by decide) readable, Form.read?_seq (by decide) readable,
    Form.read?_map readable, Form.read?_required table RequestId.decode_goesBy] at decoded
  simp only [Option.bind_eq_some_iff, Option.map_eq_some_iff] at decoded
  obtain ⟨_, ⟨_, ⟨_, ⟨version, -, rfl⟩, id', read, rfl⟩, method, -, rfl⟩, params, -, made⟩ :=
    decoded
  cases made
  split_ifs at read
  obtain ⟨v, there, spelled⟩ := Option.bind_eq_some_iff.1 read
  rw [there, RequestId.eq_toJson_of_ofValue? spelled]

end Message

/-! ### Answers -/

variable {σ : Type} {s : Server σ}

theorem id_callTool (id : RequestId) (params : Option Value) (state : σ) :
    (s.callTool id params state).1.id = some id := by
  unfold callTool
  split
  · rfl
  · split
    · rfl
    · split <;> rfl

/-- The response to a request has its id. -/
theorem id_answerRequest (id : RequestId) (c : Call) (state : σ) :
    (s.answerRequest id c state).1.id = some id := by
  unfold answerRequest
  split_ifs
  · rfl
  · rfl
  · rfl
  · exact id_callTool id c.params state
  · rfl

/-- What becomes of an object with a version and a method. It is not answered exactly if no member
is repeated that requests and notifications have in common and it lacks an id that is a text or a
whole number of 64 bits, or repeats it; then nothing happens, either. With such an id it gets a
response with that id. If a common member is repeated, the text is no message. -/
theorem answer_eq_none_iff {text : String} {members : Table Value} {version method : String}
    (object : Json.parse text = .ok (.object members))
    (versioned : members.get? "jsonrpc" = some (.string version))
    (named : members.get? "method" = some (.string method)) (s : Server σ) (state : σ) :
    ((s.answer text state).1 = none ↔
      Message.Unrepeated (Json.namesIn text) ∧
        Message.idOf? (Json.namesIn text) members = none) ∧
    ((s.answer text state).1 = none → (s.answer text state).2 = state) ∧
    (∀ id, Message.Unrepeated (Json.namesIn text) →
      Message.idOf? (Json.namesIn text) members = some id →
      ∃ response, (s.answer text state).1 = some response ∧ response.id = some id) ∧
    (¬ Message.Unrepeated (Json.namesIn text) →
      ∃ e, s.answer text state =
        (some (.failure none RpcError.parseError ("Parse error: " ++ e)), state)) := by
  have read := Message.toOption_parse object versioned named
  by_cases once : Message.Unrepeated (Json.namesIn text)
  · rw [if_pos once, Json.toOption_eq_some] at read
    cases hid : Message.idOf? (Json.namesIn text) members with
    | some id =>
      rw [hid] at read
      simp [answer, read, once, id_answerRequest]
    | none =>
      rw [hid] at read
      simp [answer, read, once]
  · rw [if_neg once] at read
    obtain ⟨f, failed⟩ : ∃ f, Message.parse text = .error f := by
      cases parsed : Message.parse text with
      | error f => exact ⟨f, rfl⟩
      | ok m =>
        rw [parsed] at read
        cases read
    have answered : s.answer text state =
        (some (.failure none RpcError.parseError ("Parse error: " ++ f.message)), state) := by
      rw [answer, failed]
    rw [answered]
    exact ⟨by simp [once], fun h ↦ (nomatch h), fun _ h ↦ absurd h once, fun _ ↦ ⟨_, rfl⟩⟩

/-- A ping with further members. -/
def ping (further : Table Value) : Value :=
  .object (("jsonrpc", .string "2.0") :: ("method", .string "ping") :: further)

/-- A server without tools. -/
def idle : Server Unit :=
  { identity := ⟨"idle", "1"⟩ }

/-- A ping with an id is answered, and a ping without one is not. -/
theorem answer_eq_none_iff_ping :
    (∃ response, (idle.answer (ping [("id", .string "a")]).compact ()).1 = some response ∧
        response.id = some (.text "a")) ∧
      (idle.answer (ping []).compact ()).1 = none := by
  constructor
  · have object := Json.parse_compact (v := ping [("id", .string "a")])
      (by simp [ping, Value.Plain, Value.PlainMembers, Table.names]) (by decide)
    obtain ⟨-, -, answered, -⟩ := answer_eq_none_iff object rfl rfl idle ()
    exact answered _ (by decide +kernel) (by decide +kernel)
  · have object := Json.parse_compact (v := ping [])
      (by simp [ping, Value.Plain, Value.PlainMembers, Table.names]) (by decide)
    exact (answer_eq_none_iff object rfl rfl idle ()).1.2 (by decide +kernel)

/-- The text of a ping with further members, each after a comma. -/
def pingText (further : String) : String :=
  "\x7b\"jsonrpc\":\"2.0\",\"method\":\"ping\"" ++ further ++ "\x7d"

/-- A ping is not answered, either, if its id is null, a fraction, or repeated. -/
theorem answer_eq_none_iff_fails :
    (∃ members : Table Value,
        Json.parse (pingText ",\"id\":null") = .ok (.object members) ∧
        members.get? "jsonrpc" = some (.string "2.0") ∧
        members.get? "method" = some (.string "ping") ∧ members.get? "id" = some .null) ∧
      (idle.answer (pingText ",\"id\":null") ()).1 = none ∧
      (idle.answer (pingText ",\"id\":1.5") ()).1 = none ∧
      (idle.answer (pingText ",\"id\":1,\"id\":1") ()).1 = none := by
  have text : pingText ",\"id\":null" = (ping [("id", .null)]).compact := by decide +kernel
  have object := Json.parse_compact (v := ping [("id", .null)])
    (by simp [ping, Value.Plain, Value.PlainMembers, Table.names]) (by decide)
  refine ⟨⟨_, text ▸ object, rfl, rfl, rfl⟩, ?_, ?_, ?_⟩ <;>
    exact Option.isNone_iff_eq_none.1 (by decide +kernel)

end Server

end Toolsmith
