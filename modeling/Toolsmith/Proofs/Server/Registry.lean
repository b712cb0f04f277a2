import Toolsmith.Proofs.Server.Noted
import Toolsmith.Proofs.Server.Toolset
import Toolsmith.Proofs.Server.Unanswered

/-!
# Tools that are listed and called

A server takes the name of a tool from its definition when it is added. Of several tools of one name
the place in the listing is that of the first, and everything else is that of the last: its
definition is listed, and it is the one that is called. Listing and calling look at the tools
independently, but at the same tools.

## Main definitions

* `Server.LastAt`, `Server.lastNamed?`: the last tool of a name.
* `Server.withTools`: a server after any additions.
* `Server.callsFor`: the calls that a message leads to.

## Main statements

* `Server.names_withTools`, `Server.get?_withTools`: the tools by name, and their order.
* `Server.Message.wellFormed_of_parse`: the parameters of a request repeat no member.
* `Server.answer_withTools`: what is listed is what is called.
-/

namespace Toolsmith.Server

open Json (Decoder Form Member Node Value)

variable {σ : Type}

/-! ### The last tool of a name -/

/-- Whether a tool has been added at a place, and none of its name after it. -/
def LastAt (ts : List (Tool σ)) (k : Nat) (t : Tool σ) : Prop :=
  ∃ before after, ts = before ++ t :: after ∧ before.length = k ∧
    ∀ u ∈ after, u.definition.name ≠ t.definition.name

/-- The last tool of a name. -/
def lastNamed? (ts : List (Tool σ)) (name : String) : Option (Tool σ) :=
  ts.reverse.find? (·.definition.name = name)

section LastNamed

variable {ts : List (Tool σ)} {name : String} {k : Nat} {t : Tool σ}

/-- The last tool is the last one of its name. -/
theorem lastNamed?_append_singleton (ts : List (Tool σ)) (t : Tool σ) (name : String) :
    lastNamed? (ts ++ [t]) name =
      if t.definition.name = name then some t else lastNamed? ts name := by
  rw [lastNamed?, List.reverse_append, List.reverse_singleton, List.singleton_append,
    List.find?_cons]
  by_cases h : t.definition.name = name <;> simp [h, lastNamed?]

/-- There is no last tool of a name that no tool has. -/
theorem lastNamed?_eq_none_iff :
    lastNamed? ts name = none ↔ name ∉ ts.map (·.definition.name) := by
  simp [lastNamed?]

theorem lastNamed?_of_lastAt (h : LastAt ts k t) :
    lastNamed? ts t.definition.name = some t := by
  obtain ⟨before, after, rfl, -, later⟩ := h
  induction after using List.reverseRecOn with
  | nil => rw [lastNamed?_append_singleton, if_pos rfl]
  | append_singleton after u ih =>
    obtain ⟨others, last⟩ := List.forall_mem_append.1 later
    rw [← List.cons_append, ← List.append_assoc, lastNamed?_append_singleton,
      if_neg (last u (List.mem_singleton_self u)), ih others]

/-- The last tool of a name stands at some place, and none of its name behind it. -/
theorem exists_lastAt_of_lastNamed? (h : lastNamed? ts name = some t) :
    t.definition.name = name ∧ ∃ k, LastAt ts k t := by
  induction ts using List.reverseRecOn with
  | nil => cases h
  | append_singleton ts u ih =>
    rw [lastNamed?_append_singleton] at h
    split at h
    next same =>
      cases h
      exact ⟨same, ts.length, ts, [], rfl, rfl, fun _ hu ↦ absurd hu List.not_mem_nil⟩
    next other =>
      obtain ⟨named, k, before, after, rfl, length, later⟩ := ih h
      refine ⟨named, k, before, after ++ [u], by rw [List.append_assoc, List.cons_append], length,
        List.forall_mem_append.2 ⟨later, fun v hv ↦ ?_⟩⟩
      rwa [List.mem_singleton.1 hv, named]

end LastNamed

/-! ### The tools of a server -/

/-- A server to which tools have been added one after the other. -/
def withTools (identity : Identity) (ts : List (Tool σ)) : Server σ :=
  ({ identity } : Server σ).addAll ts

variable (identity : Identity) (ts : List (Tool σ))

/-- Registering one more tool puts it under its name. -/
theorem tools_withTools_append_singleton (t : Tool σ) :
    (withTools identity (ts ++ [t])).tools =
      (withTools identity ts).tools.insert t.definition.name t := by
  rw [withTools, addAll, List.foldl_append]
  rfl

/-- The tools stand in the order in which their names came up first. -/
theorem names_withTools :
    (withTools identity ts).tools.names = (ts.map (·.definition.name)).eraseDups := by
  induction ts using List.reverseRecOn with
  | nil => rfl
  | append_singleton ts t ih =>
    rw [tools_withTools_append_singleton, Table.names_insert, ih, List.map_append,
      List.map_singleton, Table.eraseDups_append_singleton]
    simp only [List.mem_eraseDups]

/-- No name is registered twice. -/
theorem nodup_names_withTools : (withTools identity ts).tools.names.Nodup :=
  nodup_names_addAll List.nodup_nil

/-- Under a name stands the last tool of the name. -/
theorem get?_withTools (name : String) :
    (withTools identity ts).tools.get? name = lastNamed? ts name := by
  induction ts using List.reverseRecOn with
  | nil => rfl
  | append_singleton ts t ih =>
    rw [tools_withTools_append_singleton, Table.get?_insert, ih, lastNamed?_append_singleton]

/-- What is registered under a name is the last tool of that name. -/
theorem exists_lastAt_of_mem {e : String × Tool σ} (h : e ∈ (withTools identity ts).tools) :
    e.2.definition.name = e.1 ∧ ∃ k, LastAt ts k e.2 := by
  have found := (Table.get?_eq_some_iff (nodup_names_withTools identity ts)).2 h
  rw [get?_withTools] at found
  exact exists_lastAt_of_lastNamed? found

/-- The names that are listed are those under which the tools stand. -/
theorem names_listing_withTools :
    (withTools identity ts).listing.tools.map (·.name) =
      (withTools identity ts).tools.names := by
  rw [listing, List.map_map]
  exact List.map_congr_left fun e he ↦ (exists_lastAt_of_mem identity ts he).1

/-! ### The parameters of requests -/

/-- No member is repeated in the parameters of a request, whatever its text repeats. -/
theorem Message.wellFormed_of_parse {text : String} {id : RequestId} {c : Call} {params : Value}
    (parsed : parse text = .ok (.request id c)) (given : c.params = some params) :
    params.WellFormed := by
  have read (n : Node) (v : Option Value) (h : Decoder.nullable .any n = .ok v) :
      ∀ p ∈ v, p.WellFormed := by
    unfold Decoder.nullable at h
    split at h
    · cases h
      nofun
    · obtain ⟨w, hw, rfl⟩ := map_eq_ok.1 h
      rintro p ⟨⟩
      exact Node.wellFormed_of_value hw
  -- The parameters are the last field of a request, and the other fields do not matter here.
  obtain ⟨_, _, same, known⟩ := Form.Yields.decode
    (P := fun m ↦ ∃ id c, m = request id c ∧ ∀ p ∈ c.params, p.WellFormed)
    (.seq (P := fun v : Option Value ↦ ∀ p ∈ v, p.WellFormed)
      (.seq (.seq (.map (fun _ _ id _ _ _ _ h ↦ ⟨id, _, rfl, h⟩) (.trivial _)) (.trivial _))
        (.trivial _))
      (.single (fun _ h ↦ by cases h; nofun) read))
    (decodeRequest_of_parse parsed)
  cases same
  exact known params given

/-- The tool and the input that an object names. -/
theorem Arguments.decode_object {members : Table Value} {name : String}
    (distinct : (Value.object members).WellFormed)
    (named : members.get? "name" = some (.string name)) :
    decode (.ofValue (.object members)) =
      .ok { name, arguments := (members.get? "arguments").getD .null } := by
  have table : Node.table (Node.membersOfValues members) [] = .ok members :=
    Node.table_of_wellFormed members [] distinct.1 distinct.2
  obtain ⟨readable, -⟩ := Node.readable_of_table table
  have once (key : String) : (Member.names (Node.membersOfValues members)).count key ≤ 1 := by
    rw [Member.names_membersOfValues]
    exact List.nodup_iff_count_le_one.1 distinct.1 key
  apply Json.toOption_eq_some.1
  rw [decode, Node.ofValue, Form.toOption_decode_object, Form.read?_seq (by decide) readable,
    Form.read?_map readable, Form.read?_required table Decoder.text_goesBy,
    Form.read?_defaulted table Decoder.any_goesBy, if_pos (once _), if_pos (once _), named]
  cases members.get? "arguments" <;> rfl

/-! ### Calls that are noted by place -/

/-- Tools that note their calls under the places at which they are added. -/
def notedAll (ts : List (Tool σ)) : List (Tool (σ × List (Nat × Value))) :=
  ts.mapIdx fun k t ↦ t.noted k

/-- The calls that a message leads to: the places of the tools, with the inputs. -/
def callsFor (text : String) (state : σ) : List (Nat × Value) :=
  ((withTools identity (notedAll ts)).answer text (state, [])).2.2

theorem map_name_notedAll : (notedAll ts).map (·.definition.name) = ts.map (·.definition.name) := by
  refine List.ext_getElem? fun k ↦ ?_
  rw [List.getElem?_map, List.getElem?_map, notedAll, List.getElem?_mapIdx, Option.map_map]
  rfl

/-- Noting calls moves no tool. -/
theorem lastAt_notedAll {k : Nat} {t : Tool σ} (h : LastAt ts k t) :
    LastAt (notedAll ts) k (t.noted k) := by
  obtain ⟨before, after, rfl, rfl, later⟩ := h
  refine ⟨notedAll before, after.mapIdx fun j u ↦ u.noted (j + before.length + 1), ?_,
    List.length_mapIdx, fun u hu ↦ ?_⟩
  · rw [notedAll, List.mapIdx_append, List.mapIdx_cons, Nat.zero_add]
    simp only [notedAll, Nat.add_right_comm]
  · obtain ⟨j, hj, rfl⟩ := List.mem_mapIdx.1 hu
    exact later _ (List.getElem_mem hj)

/-! ### Requests -/

theorem runTool_snd (t : Tool σ) (input : Value) (state : σ) :
    (runTool t input state).2 = (t.call input state).2 := by
  rw [runTool]
  split <;> simp [*]

section Request

variable {text : String} {id : RequestId} {c : Call} {members : Table Value} {name : String}

/-- A request is answered by the response to it. -/
theorem answer_of_parse (parsed : Message.parse text = .ok (.request id c)) (s : Server σ)
    (state : σ) :
    s.answer text state =
      (some (s.answerRequest id c state).1, (s.answerRequest id c state).2) := by
  rw [answer, parsed]

/-- A request to call a tool is answered by calling it. -/
theorem answer_of_parse_call (parsed : Message.parse text = .ok (.request id c))
    (called : c.method = "tools/call") (s : Server σ) (state : σ) :
    s.answer text state =
      (some (s.callTool id c.params state).1, (s.callTool id c.params state).2) := by
  rw [answer_of_parse parsed]
  simp [answerRequest, called]

/-- A call with an object runs the last tool of the name in the object. -/
theorem callTool_withTools (distinct : (Value.object members).WellFormed)
    (named : members.get? "name" = some (.string name)) (state : σ) :
    (withTools identity ts).callTool id (some (.object members)) state =
      match lastNamed? ts name with
      | some t =>
        (.success id (runTool t ((members.get? "arguments").getD .null) state).1.toJson,
          (runTool t ((members.get? "arguments").getD .null) state).2)
      | none =>
        (.failure (some id) RpcError.invalidParams (Failure.toolNotFound name).message, state) := by
  simp only [callTool, Arguments.decode_object distinct named, get?_withTools]
  cases lastNamed? ts name <;> rfl

/-- A call that names no tool gets an error and leaves everything as it is. -/
theorem exists_callTool_eq_failure {params : Option Value}
    (astray : ∀ p a, params = some p → Arguments.decode (.ofValue p) = .ok a →
      a.name ∉ ts.map (·.definition.name)) (state : σ) :
    ∃ wording, (withTools identity ts).callTool id params state =
      (.failure (some id) RpcError.invalidParams wording, state) := by
  match params with
  | none => exact ⟨_, rfl⟩
  | some p =>
    rw [callTool]
    cases decoded : Arguments.decode (.ofValue p) with
    | error f => exact ⟨_, rfl⟩
    | ok a =>
      have absent := lastNamed?_eq_none_iff.2 (astray p a rfl decoded)
      simp only [get?_withTools, absent]
      exact ⟨_, rfl⟩

/-- What is listed is what is called, whatever tools have been added one after the other. A listing
tells every name once, in the order in which the names came up first, with the definition of the
last tool of the name. A call with an object that names a listed tool runs just this tool, once and
with the input in the object, or with null if there is none. A call that names no listed tool gets
an error, and no tool is run. -/
theorem answer_withTools (parsed : Message.parse text = .ok (.request id c)) (state : σ) :
    (c.method = "tools/list" → ∃ told : List Definition,
      (withTools identity ts).answer text state =
        (some (.success id (Listing.toJson { tools := told })), state) ∧
      told.map (·.name) = (ts.map (·.definition.name)).eraseDups ∧ (told.map (·.name)).Nodup ∧
      ∀ d ∈ told, ∃ k t, LastAt ts k t ∧ t.definition = d) ∧
    (c.method = "tools/call" → ∀ (members : Table Value) name, c.params = some (.object members) →
      members.get? "name" = some (.string name) →
      (name ∈ ts.map (·.definition.name) → ∃ k t, LastAt ts k t ∧ t.definition.name = name ∧
        (withTools identity ts).answer text state =
          (some (.success id (runTool t ((members.get? "arguments").getD .null) state).1.toJson),
            (t.call ((members.get? "arguments").getD .null) state).2) ∧
        callsFor identity ts text state = [(k, (members.get? "arguments").getD .null)]) ∧
      (name ∉ ts.map (·.definition.name) →
        (withTools identity ts).answer text state =
          (some (.failure (some id) (-32602) ("Tool not found: " ++ name)), state) ∧
        callsFor identity ts text state = [])) ∧
    (c.method = "tools/call" →
      (∀ params a, c.params = some params → Arguments.decode (.ofValue params) = .ok a →
        a.name ∉ ts.map (·.definition.name)) →
      ∃ wording, (withTools identity ts).answer text state =
          (some (.failure (some id) (-32602) wording), state) ∧
        callsFor identity ts text state = []) := by
  refine ⟨fun listed ↦ ?_, fun called members name given named ↦ ⟨fun known ↦ ?_, fun new ↦ ?_⟩,
    fun called astray ↦ ?_⟩
  · refine ⟨(withTools identity ts).listing.tools, ?_, ?_, ?_, fun d hd ↦ ?_⟩
    · rw [answer_of_parse parsed]
      simp only [answerRequest, listed]
      rfl
    · rw [names_listing_withTools, names_withTools]
    · rw [names_listing_withTools]
      exact nodup_names_withTools identity ts
    · obtain ⟨e, he, rfl⟩ := List.mem_map.1 hd
      obtain ⟨-, k, last⟩ := exists_lastAt_of_mem identity ts he
      exact ⟨k, e.2, last, rfl⟩
  · obtain ⟨t, ht⟩ := Option.ne_none_iff_exists'.1 fun h ↦ lastNamed?_eq_none_iff.1 h known
    obtain ⟨rfl, k, last⟩ := exists_lastAt_of_lastNamed? ht
    have distinct := Message.wellFormed_of_parse parsed given
    have noted := lastNamed?_of_lastAt (lastAt_notedAll ts last)
    rw [definition_noted] at noted
    refine ⟨k, t, last, rfl, ?_, ?_⟩
    · rw [answer_of_parse_call parsed called, given, callTool_withTools identity ts distinct named,
        ht, runTool_snd]
    · rw [callsFor, answer_of_parse_call parsed called, given,
        callTool_withTools identity _ distinct named, noted]
      simp only [runTool_noted, List.nil_append]
  · have distinct := Message.wellFormed_of_parse parsed given
    have absent := lastNamed?_eq_none_iff.2 new
    have unnoted := lastNamed?_eq_none_iff.2 (map_name_notedAll ts ▸ new)
    constructor
    · rw [answer_of_parse_call parsed called, given, callTool_withTools identity ts distinct named,
        absent]
      rfl
    · rw [callsFor, answer_of_parse_call parsed called, given,
        callTool_withTools identity _ distinct named, unnoted]
  · obtain ⟨wording, failed⟩ := exists_callTool_eq_failure identity ts astray state
    obtain ⟨_, unnoted⟩ := exists_callTool_eq_failure identity (notedAll ts)
      (map_name_notedAll ts ▸ astray) (state, [])
    refine ⟨wording, ?_, ?_⟩
    · rw [answer_of_parse_call parsed called, failed]
      rfl
    · rw [callsFor, answer_of_parse_call parsed called, unnoted]

end Request

/-- A tool that answers with a word. -/
def greeter (name word : String) : Tool Unit where
  definition := { name, inputSchema := .object [] }
  call _ state := (.ok { content := [.text word] }, state)

/-- Three tools, two of which have the same name. -/
def greeters : List (Tool Unit) :=
  [greeter "greet" "Hello", greeter "part" "Goodbye", greeter "greet" "Welcome"]

/-- The members of a call of the tool of that name. -/
def calling : Table Value :=
  [("jsonrpc", .string "2.0"), ("id", .string "a"), ("method", .string "tools/call"),
    ("params", .object [("name", .string "greet")])]

theorem parse_calling : Message.parse (Value.object calling).compact =
    .ok (.request (.text "a") (Message.callOf "2.0" "tools/call" calling)) := by
  have object := Json.parse_compact (v := .object calling)
    (by simp [calling, Value.Plain, Value.PlainMembers, Table.names]) (by decide)
  have once : Message.Unrepeated (Json.namesIn (Value.object calling).compact) := by
    decide +kernel
  have id : Message.idOf? (Json.namesIn (Value.object calling).compact) calling =
      some (.text "a") := by decide +kernel
  have read := Message.toOption_parse object rfl rfl
  rw [if_pos once, id] at read
  exact Json.toOption_eq_some.1 read

/-- The call runs one of the three tools, without an input. -/
theorem answer_withTools_greeters : ∃ k t, LastAt greeters k t ∧ t.definition.name = "greet" ∧
    callsFor ⟨"desk", "1"⟩ greeters (Value.object calling).compact () = [(k, .null)] := by
  obtain ⟨-, calls, -⟩ := answer_withTools ⟨"desk", "1"⟩ greeters parse_calling ()
  obtain ⟨k, t, last, named, -, noted⟩ := (calls rfl [("name", .string "greet")] "greet" rfl
    rfl).1 (by decide)
  exact ⟨k, t, last, named, noted⟩

end Toolsmith.Server
