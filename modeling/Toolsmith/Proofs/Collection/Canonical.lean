import Toolsmith.Proofs.Collection.Document
import Toolsmith.Proofs.Json.Distinct

/-!
# Collections spelled as documents

Every collection has a document that spells it out: each part as an object with a member for each
thing that the part has, and no member for what it does not have. The document is read as the
collection that it spells, whatever the depth of its folders. What no document can spell is left
out of account: an empty description and a null value are read as absent ones, a status code has
16 bits, and no object in the value of a variable repeats a member.

## Main definitions

* `Collection.toJson`: the document that spells a collection.
* `Collection.Spellable`: whether a collection has nothing that no document can spell.

## Main statements

* `Collection.ofJson_canonical`: a collection is read from its document.
-/

namespace Toolsmith.Collection

open Json (Node Value)
open Json.Value (memberOf)

/-! ### Documents -/

/-- The object that spells a path variable or a query parameter. -/
def Variable.toJson (v : Variable) : Value :=
  .object (memberOf "key" (v.key.map .string) ++ memberOf "value" v.value ++
    memberOf "description" (v.description.map .string))

/-- The object that spells a URL. -/
def Address.toJson (a : Address) : Value :=
  .object [("raw", .string a.raw), ("variable", .array (a.pathVariables.map Variable.toJson)),
    ("query", .array (a.query.map Variable.toJson))]

/-- The object that spells a body. -/
def Body.toJson (b : Body) : Value :=
  .object (memberOf "mode" (b.mode.map .string) ++ memberOf "raw" (b.raw.map .string))

/-- The object that spells what a request sends. -/
def Payload.toJson (p : Payload) : Value :=
  .object (memberOf "method" (p.method.map .string) ++ [("url", p.address.toJson)] ++
    memberOf "body" (p.body.map Body.toJson))

/-- The object that spells a saved response. -/
def Example.toJson (e : Example) : Value :=
  .object (memberOf "name" (e.name.map .string) ++
    memberOf "code" (e.code.map fun n : Nat ↦ .number (.integer n)) ++
    memberOf "body" (e.body.map .string))

/-- The object that spells a request. -/
def Request.toJson (r : Request) : Value :=
  .object (memberOf "name" (r.name.map .string) ++
    memberOf "description" (r.description.map .string) ++
    memberOf "request" (r.payload.map Payload.toJson) ++
    [("response", .array (r.responses.map Example.toJson))])

mutual
/-- The object that spells a node. -/
def Item.toJson : Item → Value
  | .folder name children =>
    .object (memberOf "name" (name.map .string) ++ [("item", .array (Item.toJsons children))])
  | .request r => r.toJson

/-- The objects that spell several nodes. -/
def Item.toJsons : List Item → List Value
  | [] => []
  | i :: is => i.toJson :: Item.toJsons is
end

/-- The document that spells a collection. -/
def toJson (c : Collection) : Value :=
  .object
    [("info", .object (memberOf "name" (c.name.map .string) ++
        memberOf "description" (c.description.map .string))),
      ("item", .array (Item.toJsons c.items))]

/-- Items are written one by one. -/
theorem Item.toJsons_eq_map (is : List Item) : toJsons is = is.map toJson := by
  induction is with
  | nil => rfl
  | cons i is ih => rw [toJsons, ih, List.map_cons]

/-! ### What documents can spell -/

/-- Whether a variable can be spelled: its description is not empty, and its value is not null and
repeats no member. -/
structure Variable.Spellable (v : Variable) : Prop where
  /-- The description is not empty. -/
  description : v.description ≠ some ""
  /-- The value is not null, and no object in it has two members of one name. -/
  value : ∀ x, v.value = some x → x.kind ≠ .null ∧ x.WellFormed

/-- Whether a request can be spelled. -/
structure Request.Spellable (r : Request) : Prop where
  /-- The description is not empty. -/
  description : r.description ≠ some ""
  /-- The path variables and the query parameters can be spelled. -/
  parameters : ∀ p, r.payload = some p →
    (∀ v ∈ p.address.pathVariables, v.Spellable) ∧ ∀ v ∈ p.address.query, v.Spellable
  /-- The status codes have 16 bits. -/
  codes : ∀ e ∈ r.responses, ∀ n, e.code = some n → n ≤ 65535

mutual
/-- Whether all requests at and below a node can be spelled. -/
def Item.Spellable : Item → Prop
  | .folder _ children => Item.AllSpellable children
  | .request r => r.Spellable

/-- Whether all requests at and below several nodes can be spelled. -/
def Item.AllSpellable : List Item → Prop
  | [] => True
  | i :: is => i.Spellable ∧ Item.AllSpellable is
end

/-- Items can be spelled if each of them can. -/
theorem Item.allSpellable_iff {is : List Item} : AllSpellable is ↔ ∀ i ∈ is, i.Spellable := by
  induction is with
  | nil => exact ⟨fun _ _ h ↦ absurd h List.not_mem_nil, fun _ ↦ trivial⟩
  | cons i is ih => rw [AllSpellable, ih, List.forall_mem_cons]

/-- Whether a collection can be spelled. -/
structure Spellable (c : Collection) : Prop where
  /-- The description is not empty. -/
  description : c.description ≠ some ""
  /-- The requests can be spelled. -/
  items : Item.AllSpellable c.items

/-! ### Documents read back -/

namespace Document

open Json.Form (given? given?_singleton given?_text_toList given?_toList)

/-- A description that is not empty is read from its member. -/
theorem descriptionOf?_of_under {d : Option String} (h : d ≠ some "")
    {ms : List (String × Value)}
    (member : Value.under "description" ms = (d.map .string).toList) :
    descriptionOf? ms = some d := by
  rw [descriptionOf?, member]
  cases d with
  | none => rfl
  | some d =>
    have kept : (some d).filter (!·.isEmpty) = some d := by
      rw [Option.filter_eq_some_iff]
      refine ⟨rfl, ?_⟩
      rw [Bool.not_eq_true', Bool.eq_false_iff, Ne, String.isEmpty_iff]
      exact fun empty ↦ h (congrArg some empty)
    have text : (Value.string d).kind ≠ .null := nofun
    show (·.join) <$> given? description [.string d] = _
    rw [given?_singleton text, toOption_description]
    exact congrArg some kept

/-- A parameter is read back from what is written of it. -/
theorem toOption_parameter_toJson {v : Variable} (h : v.Spellable) :
    (parameter (.ofValue v.toJson)).toOption = some v := by
  have value : given? .any (v.value.map fun x ↦ x).toList = some v.value := by
    refine given?_toList fun x hx ↦ ⟨(h.value x hx).1, ?_⟩
    rw [Json.Decoder.any, Node.value_of_wellFormed x (h.value x hx).2, Json.toOption_ok]
  rw [Option.map_id'] at value
  rw [toOption_parameter, Variable.toJson]
  show parameterOf? _ = _
  rw [parameterOf?, descriptionOf?_of_under h.description (by simp)]
  simp only [Value.under_append, Value.under_memberOf, String.reduceEq, reduceIte, List.append_nil,
    List.nil_append, given?_text_toList, value]
  rfl

/-- So is an address whose parameters can be spelled. -/
theorem toOption_address_toJson {a : Address} (path : ∀ v ∈ a.pathVariables, v.Spellable)
    (query : ∀ v ∈ a.query, v.Spellable) : (address (.ofValue a.toJson)).toOption = some a := by
  have parameters {vs : List Variable} (h : ∀ v ∈ vs, v.Spellable) :
      given? (.list parameter) [.array (vs.map Variable.toJson)] = some (some vs) := by
    have array : (Value.array (vs.map Variable.toJson)).kind ≠ .null := nofun
    rw [given?_singleton array,
      Json.toOption_list_map fun v hv ↦ toOption_parameter_toJson (h v hv)]
    rfl
  rw [toOption_address, Address.toJson]
  show addressOf? _ = _
  rw [addressOf?]
  simp only [Value.under_cons, Value.under_nil, String.reduceEq, reduceIte, parameters path,
    parameters query]
  rfl

/-- A body is read back. -/
theorem toOption_body_toJson (b : Body) : (body (.ofValue b.toJson)).toOption = some b := by
  rw [toOption_body, Body.toJson]
  show bodyOf? _ = _
  rw [bodyOf?]
  simp only [Value.under_append, Value.under_memberOf, String.reduceEq, reduceIte, List.append_nil,
    List.nil_append, given?_text_toList]
  rfl

/-- A response is read back, if its code is one. -/
theorem toOption_response_toJson {e : Example} (h : ∀ n, e.code = some n → n ≤ 65535) :
    (response (.ofValue e.toJson)).toOption = some e := by
  have code : given? .natural16 (e.code.map fun n : Nat ↦ Value.number (.integer n)).toList =
      some e.code := by
    refine given?_toList fun n hn ↦ ⟨nofun, ?_⟩
    have range : (0 : Int) ≤ n ∧ (n : Int) ≤ 65535 := by
      have := h n hn
      omega
    simp [Node.ofValue, Json.Decoder.natural16, Json.Decoder.integer, range, Except.map]
  rw [toOption_response, Example.toJson]
  show responseOf? _ = _
  rw [responseOf?]
  simp only [Value.under_append, Value.under_memberOf, String.reduceEq, reduceIte, List.append_nil,
    List.nil_append, given?_text_toList, code]
  rfl

/-- A request is read back, if its address is. -/
theorem toOption_request_toJson {p : Payload}
    (h : (∀ v ∈ p.address.pathVariables, v.Spellable) ∧ ∀ v ∈ p.address.query, v.Spellable) :
    (request (.ofValue p.toJson)).toOption = some (p, none) := by
  have url : given? address [p.address.toJson] = some (some p.address) := by
    have object : p.address.toJson.kind ≠ .null := nofun
    rw [given?_singleton object, toOption_address_toJson h.1 h.2]
    rfl
  have body : given? body (p.body.map Body.toJson).toList = some p.body :=
    given?_toList fun b _ ↦ ⟨nofun, toOption_body_toJson b⟩
  rw [toOption_request, Payload.toJson]
  show requestOf? _ = _
  rw [requestOf?, descriptionOf?]
  simp only [Value.under_append, Value.under_memberOf, Value.under_cons, Value.under_nil,
    String.reduceEq, reduceIte, List.append_nil, List.nil_append, given?_text_toList, url, body]
  rfl

/-- An item that has no items of its own is a request. -/
theorem assembleItem_request (r : Request) :
    assembleItem r.name r.description none (r.payload.map (·, none)) (some r.responses) =
      .request r := by
  obtain ⟨name, description, payload, responses⟩ := r
  cases payload <;> simp [assembleItem]

/-- A request that can be spelled is read back as an item. -/
theorem toOption_item_request {r : Request} (h : r.Spellable) (depth : Nat) :
    (item (depth + 1) (.ofValue r.toJson)).toOption = some (.request r) := by
  have payload : given? request (r.payload.map Payload.toJson).toList =
      some (r.payload.map (·, none)) := by
    cases hp : r.payload with
    | none => rfl
    | some p =>
      have object : p.toJson.kind ≠ .null := nofun
      exact (given?_singleton object).trans
        (congrArg (Option.map some) (toOption_request_toJson (h.parameters p hp)))
  have responses : given? (.list response) [.array (r.responses.map Example.toJson)] =
      some (some r.responses) := by
    have array : (Value.array (r.responses.map Example.toJson)).kind ≠ .null := nofun
    rw [given?_singleton array,
      Json.toOption_list_map fun e he ↦ toOption_response_toJson (h.codes e he)]
    rfl
  rw [toOption_item, Request.toJson]
  show itemOf? _ _ = _
  rw [itemOf?, descriptionOf?_of_under h.description (by simp [Value.under_cons])]
  simp only [Value.under_append, Value.under_memberOf, Value.under_cons, Value.under_nil,
    String.reduceEq, reduceIte, List.append_nil, List.nil_append, given?_text_toList, payload,
    responses]
  exact congrArg some (assembleItem_request r)

/-- Nodes in an array that is a member of an object are less deep than the object. -/
theorem depth_lt_of_mem_toJsons {is : List Item} {i : Item} (h : i ∈ is)
    {ms : List (String × Value)} {name : String}
    (member : (name, Value.array (Item.toJsons is)) ∈ ms) :
    i.toJson.depth + 1 < (Value.object ms).depth := by
  have spelled : i.toJson ∈ Item.toJsons is := by
    rw [Item.toJsons_eq_map]
    exact List.mem_map_of_mem h
  have inner := Value.depth_lt_of_mem_array spelled
  have outer := Value.depth_lt_of_mem_object member
  omega

/-- A list of items is read back if each of them is. -/
theorem given?_list_toJsons {depth : Nat} {is : List Item}
    (read : ∀ i ∈ is, (item depth (.ofValue i.toJson)).toOption = some i) :
    given? (.list (item depth)) [.array (Item.toJsons is)] = some (some is) := by
  have array : (Value.array (Item.toJsons is)).kind ≠ .null := nofun
  rw [given?_singleton array, Item.toJsons_eq_map, Json.toOption_list_map read]
  rfl

/-- A node is read from its object, whatever bound on the depth its object keeps to. -/
theorem toOption_item_toJson {depth : Nat} {i : Item} (h : i.Spellable)
    (deep : i.toJson.depth ≤ depth) : (item depth (.ofValue i.toJson)).toOption = some i := by
  induction depth generalizing i with
  | zero => cases i <;> exact absurd deep (Nat.not_succ_le_zero _)
  | succ depth ih =>
    cases i with
    | request r => exact toOption_item_request h depth
    | folder name children =>
      rw [Item.toJson] at deep ⊢
      have member : ("item", Value.array (Item.toJsons children)) ∈
          memberOf "name" (name.map .string) ++ [("item", .array (Item.toJsons children))] :=
        List.mem_append_right _ List.mem_cons_self
      have read (child : Item) (hc : child ∈ children) :
          (item depth (.ofValue child.toJson)).toOption = some child := by
        have shallow := depth_lt_of_mem_toJsons hc member
        exact ih (Item.allSpellable_iff.1 h child hc) (by omega)
      rw [toOption_item]
      show itemOf? _ _ = _
      rw [itemOf?, descriptionOf?]
      simp only [Value.under_append, Value.under_memberOf, Value.under_cons, Value.under_nil,
        String.reduceEq, reduceIte, List.append_nil, List.nil_append, given?_text_toList,
        given?_list_toJsons read]
      rfl

/-- The information about a collection is read back, unless its description is empty. -/
theorem given?_info_toJson {name d : Option String} (h : d ≠ some "") :
    given? info [.object (memberOf "name" (name.map .string) ++
      memberOf "description" (d.map .string))] = some (some (name, d)) := by
  have object : (Value.object (memberOf "name" (name.map .string) ++
      memberOf "description" (d.map .string))).kind ≠ .null := nofun
  rw [given?_singleton object, toOption_info]
  show (infoOf? _).map some = _
  rw [infoOf?, descriptionOf?_of_under h (by simp)]
  simp only [Value.under_append, Value.under_memberOf, String.reduceEq, reduceIte, List.append_nil,
    given?_text_toList]
  rfl

end Document

/-- A collection is read from its document: the same nesting, order, names, variables, bodies and
responses, and nothing else. -/
theorem ofJson_canonical {c : Collection} (h : c.Spellable) : ofJson c.toJson = .ok c := by
  have read (i : Item) (hi : i ∈ c.items) :
      (Document.item c.toJson.depth (.ofValue i.toJson)).toOption = some i := by
    have shallow : i.toJson.depth + 1 < c.toJson.depth :=
      Document.depth_lt_of_mem_toJsons hi (List.mem_cons_of_mem _ List.mem_cons_self)
    exact Document.toOption_item_toJson (Item.allSpellable_iff.1 h.items i hi) (by omega)
  have whole : (Document.collection c.toJson.depth (.ofValue c.toJson)).toOption = some c := by
    rw [Document.toOption_collection]
    show Document.collectionOf? (.list (Document.item c.toJson.depth)) _ = _
    rw [Document.collectionOf?]
    simp only [Value.under_cons, Value.under_nil, String.reduceEq, reduceIte,
      Document.given?_info_toJson h.description, Document.given?_list_toJsons read]
    rfl
  have root : c.toJson.isObject = true := rfl
  rw [ofJson, if_pos root, Json.toOption_eq_some.1 whole]
  rfl

/-- A collection with folders in a folder, one of them without name and empty, and with requests
that have all there is and nearly nothing. -/
def nested : Collection where
  name := some "Shop"
  items :=
    [.folder (some "Orders")
        [.folder none [],
          .folder (some "")
            [.request
              { name := some "find"
                description := some "Finds an order."
                payload := some
                  { method := some "get"
                    address :=
                      { raw := "http://a.test/:id?n=1"
                        pathVariables := [{ key := some "id", value := some (.string "7") }]
                        query :=
                          [{ key := some "n", value := some (.number (.integer 1)) },
                            { value := some (.array [.null]), description := some "No key." }] }
                    body := some { raw := some "" } }
                responses := [{ code := some 200, body := some "[]" }, {}] }]],
      .request { name := some "find" }]

theorem ofJson_canonical_nested : nested.Spellable ∧ ofJson nested.toJson = .ok nested := by
  have bare : Request.Spellable { name := some "find" } := ⟨nofun, nofun, nofun⟩
  have codes : ∀ e ∈ [{ code := some 200, body := some "[]" }, ({} : Example)],
      ∀ n, e.code = some n → n ≤ 65535 := by
    simp
  have spellable : nested.Spellable := by
    refine ⟨nofun, ⟨trivial, ⟨⟨by decide, ?_, codes⟩, trivial⟩, trivial⟩, bare, trivial⟩
    rintro p ⟨⟩
    refine ⟨List.forall_mem_singleton.2 ⟨nofun, ?_⟩,
      List.forall_mem_cons.2 ⟨⟨nofun, ?_⟩, List.forall_mem_singleton.2 ⟨by decide, ?_⟩⟩⟩
    · rintro x ⟨⟩
      exact ⟨nofun, trivial⟩
    · rintro x ⟨⟩
      exact ⟨nofun, trivial⟩
    · rintro x ⟨⟩
      exact ⟨nofun, trivial, trivial⟩
  exact ⟨spellable, ofJson_canonical spellable⟩

end Toolsmith.Collection
