import Toolsmith.Proofs.Collection.Document

/-!
# Alternative spellings of collection documents

A document may spell the same thing in several ways: a description as a text or as an object with
its content, a request as its bare URL, a URL as its bare text, a host or path as segments or as
one text, a segment as a text or as an object, a port as a number or as a text, and what is absent
as null. Which of these may stand at a place in a document depends on the part that stands there.
The collection that is read does not depend on the spelling, wherever the spellings differ and
however many do.

## Main definitions

* `Document.Part`: the parts of a document, with their fields and their decoders.
* `Document.Respelled`: whether two values spell the same part.

## Main statements

* `Document.Respelled.alike`: two spellings of a part are read alike.
* `ofJson_respelled`: two spellings of a document are read as the same collection, or neither is
  read.
-/

namespace Toolsmith.Collection

namespace Document

open Json (Decoder Node Value)
open Json.Form (given? given?_map given?_singleton)
open Json.Value (under)

/-! ### Parts -/

/-- The parts of a document. -/
inductive Part where
  | document
  | info
  | items
  | item
  | request
  | address
  | parameters
  | parameter
  | body
  | responses
  | response
  | description
  | host
  | path
  | segment
  | port
  | text
  | code
  | value
deriving DecidableEq

namespace Part

/-- The fields of a record, in order of declaration, with the parts that stand in them. -/
def fields : Part → Table Part
  | .document => [("info", .info), ("item", .items)]
  | .info => [("name", .text), ("description", .description)]
  | .item =>
    [("name", .text), ("description", .description), ("item", .items), ("request", .request),
      ("response", .responses)]
  | .request =>
    [("method", .text), ("url", .address), ("body", .body), ("description", .description)]
  | .address =>
    [("raw", .text), ("protocol", .text), ("host", .host), ("port", .port), ("path", .path),
      ("query", .parameters), ("variable", .parameters)]
  | .parameter => [("key", .text), ("value", .value), ("description", .description)]
  | .body => [("mode", .text), ("raw", .text)]
  | .response => [("name", .text), ("code", .code), ("body", .text)]
  | .description => [("content", .text)]
  | .segment => [("value", .text)]
  | .items | .parameters | .responses | .host | .path | .port | .text | .code | .value => []

/-- The part that stands in each place of a list. -/
def element? : Part → Option Part
  | .items => some .item
  | .parameters => some .parameter
  | .responses => some .response
  | .host | .path => some .segment
  | _ => none

/-- What a part is read as. -/
def Result : Part → Type
  | .document => Collection
  | .info => Option String × Option String
  | .items => List Item
  | .item => Item
  | .request => Payload × Option String
  | .address => Address
  | .parameters => List Variable
  | .parameter => Variable
  | .body => Body
  | .responses => List Example
  | .response => Example
  | .description | .segment => Option String
  | .host | .path | .port | .text => String
  | .code => Nat
  | .value => Value

/-- The decoder of a part; of a port, it reads the text that goes into the URL. -/
def decoder (depth : Nat) : (part : Part) → Decoder part.Result
  | .document => collection depth
  | .info => Document.info
  | .items => .list (Document.item depth)
  | .item => Document.item depth
  | .request => Document.request
  | .address => Document.address
  | .parameters => .list Document.parameter
  | .parameter => Document.parameter
  | .body => Document.body
  | .responses => .list Document.response
  | .response => Document.response
  | .description => Document.description
  | .host => segments "."
  | .path => segments "/"
  | .segment => Document.segment
  | .port => fun n ↦ (Decoder.any n).map fun port ↦ portText (some port)
  | .text => .text
  | .code => .natural16
  | .value => .any

end Part

/-- Whether two values are spellings of the same part that may stand for each other. -/
inductive Respelled : Part → Value → Value → Prop
  /-- A part has its own spelling. -/
  | refl {part : Part} (v : Value) : Respelled part v v
  /-- Spellings can be changed back. -/
  | symm {part : Part} {v w : Value} : Respelled part v w → Respelled part w v
  /-- Spellings can be changed one after the other. -/
  | trans {part : Part} {u v w : Value} :
    Respelled part u v → Respelled part v w → Respelled part u w
  /-- A description may be the content of an object. -/
  | description (s : String) : Respelled .description (.string s) (.object [("content", .string s)])
  /-- A request that is a bare URL may be an object with that URL. -/
  | request (u : String) : Respelled .request (.string u) (.object [("url", .string u)])
  /-- A URL that is a bare text may be an object with that text. -/
  | address (u : String) : Respelled .address (.string u) (.object [("raw", .string u)])
  /-- A host may be one text. -/
  | host (ss : List String) :
    Respelled .host (.array (ss.map .string)) (.string (".".intercalate ss))
  /-- A path may be one text. -/
  | path (ss : List String) :
    Respelled .path (.array (ss.map .string)) (.string ("/".intercalate ss))
  /-- A segment may be the value of an object. -/
  | segment (s : String) : Respelled .segment (.string s) (.object [("value", .string s)])
  /-- A port may be a text. -/
  | port (n : Int) :
    Respelled .port (.number (.integer n)) (.string (.ofList (Json.Number.integerText n)))
  /-- What is absent may be null, anywhere among the other members. -/
  | absent {part : Part} {name : String} {before after : List (String × Value)} :
    name ∈ part.fields.names → name ∉ Table.names (before ++ after) →
      Respelled part (.object (before ++ after)) (.object (before ++ (name, .null) :: after))
  /-- The part in a field may be spelled in another way. -/
  | member {part inner : Part} {name : String} {before after : List (String × Value)}
    {v v' : Value} :
    (name, inner) ∈ part.fields → Respelled inner v v' →
      Respelled part (.object (before ++ (name, v) :: after))
        (.object (before ++ (name, v') :: after))
  /-- The part in a field of a record that is an array may be spelled in another way. -/
  | position {part inner : Part} {name : String} {before after : List Value} {v v' : Value} :
    part.fields[before.length]? = some (name, inner) → Respelled inner v v' →
      Respelled part (.array (before ++ v :: after)) (.array (before ++ v' :: after))
  /-- The part in a place of a list may be spelled in another way. -/
  | element {part inner : Part} {before after : List Value} {v v' : Value} :
    part.element? = some inner → Respelled inner v v' →
      Respelled part (.array (before ++ v :: after)) (.array (before ++ v' :: after))

/-! ### Readings -/

/-- Whether two values are read alike where a part is looked for. -/
structure Alike (part : Part) (v v' : Value) : Prop where
  /-- Both of the values count as absent, or neither does. -/
  null : v.kind = .null ↔ v'.kind = .null
  /-- At the root, both of the values are objects, or neither is. -/
  root : part = .document → v.isObject = v'.isObject
  /-- The same is read from both, if anything is. -/
  read : ∀ depth,
    (part.decoder depth (.ofValue v)).toOption = (part.decoder depth (.ofValue v')).toOption

/-- Whether the fields of a part are read alike from the members of two objects. -/
def AlikeUnder (part : Part) (ms ms' : List (String × Value)) : Prop :=
  part.fields.Forall fun (name, inner) ↦ ∀ depth,
    given? (inner.decoder depth) (under name ms) = given? (inner.decoder depth) (under name ms')

namespace Alike

variable {part : Part} {u v v' w : Value}

theorem refl (part : Part) (v : Value) : Alike part v v :=
  ⟨.rfl, fun _ ↦ rfl, fun _ ↦ rfl⟩

theorem symm (h : Alike part v w) : Alike part w v :=
  ⟨h.null.symm, fun root ↦ (h.root root).symm, fun depth ↦ (h.read depth).symm⟩

/-- Values that are alike with a third one between them are alike. -/
theorem trans (h : Alike part u v) (h' : Alike part v w) : Alike part u w :=
  ⟨h.null.trans h'.null, fun root ↦ (h.root root).trans (h'.root root), fun depth ↦
    (h.read depth).trans (h'.read depth)⟩

/-- A field is read alike whichever of two values that are read alike stands in it. -/
theorem given?_congr (h : Alike part v v') (depth : Nat) (before after : List Value) :
    given? (part.decoder depth) (before ++ v :: after) =
      given? (part.decoder depth) (before ++ v' :: after) := by
  match before, after with
  | [], [] =>
    by_cases null : v.kind = .null
    · cases v <;> cases null
      have null' := h.null.1 rfl
      cases v' <;> cases null'
      rfl
    · rw [List.nil_append, List.nil_append, given?_singleton null,
        given?_singleton (mt h.null.2 null), h.read depth]
  | [], _ :: _ | [_], _ | _ :: _ :: _, _ => rfl

end Alike

/-! ### Records whose fields are read alike -/

section Records

variable {ms ms' : List (String × Value)}

/-- A description with alike members is the same. -/
theorem contentOf?_congr (h : AlikeUnder .description ms ms') : contentOf? ms = contentOf? ms' :=
  h 0

/-- A segment with alike members is the same. -/
theorem segmentOf?_congr (h : AlikeUnder .segment ms ms') : segmentOf? ms = segmentOf? ms' :=
  h 0

/-- A parameter with alike members is the same. -/
theorem parameterOf?_congr (h : AlikeUnder .parameter ms ms') :
    parameterOf? ms = parameterOf? ms' := by
  simp only [AlikeUnder, Part.fields, List.Forall, Part.decoder, Part.Result, forall_const] at h
  simp only [parameterOf?, descriptionOf?, h]

/-- A body with alike members is the same. -/
theorem bodyOf?_congr (h : AlikeUnder .body ms ms') : bodyOf? ms = bodyOf? ms' := by
  simp only [AlikeUnder, Part.fields, List.Forall, Part.decoder, Part.Result, forall_const] at h
  simp only [bodyOf?, h]

/-- A response with alike members is the same. -/
theorem responseOf?_congr (h : AlikeUnder .response ms ms') :
    responseOf? ms = responseOf? ms' := by
  simp only [AlikeUnder, Part.fields, List.Forall, Part.decoder, Part.Result, forall_const] at h
  simp only [responseOf?, h]

/-- A request with alike members is the same. -/
theorem requestOf?_congr (h : AlikeUnder .request ms ms') : requestOf? ms = requestOf? ms' := by
  simp only [AlikeUnder, Part.fields, List.Forall, Part.decoder, Part.Result, forall_const] at h
  simp only [requestOf?, descriptionOf?, h]

/-- An item with alike members is the same, to any depth. -/
theorem itemOf?_congr (h : AlikeUnder .item ms ms') (depth : Nat) :
    itemOf? (.list (item depth)) ms = itemOf? (.list (item depth)) ms' := by
  simp only [AlikeUnder, Part.fields, List.Forall, Part.decoder, Part.Result, forall_const] at h
  simp only [itemOf?, descriptionOf?, h]

/-- The information about a collection is the same if its members are alike. -/
theorem infoOf?_congr (h : AlikeUnder .info ms ms') : infoOf? ms = infoOf? ms' := by
  simp only [AlikeUnder, Part.fields, List.Forall, Part.decoder, Part.Result, forall_const] at h
  simp only [infoOf?, descriptionOf?, h]

/-- A collection with alike members is the same, to any depth. -/
theorem collectionOf?_congr (h : AlikeUnder .document ms ms') (depth : Nat) :
    collectionOf? (.list (item depth)) ms = collectionOf? (.list (item depth)) ms' := by
  simp only [AlikeUnder, Part.fields, List.Forall, Part.decoder, Part.Result, forall_const] at h
  simp only [collectionOf?, h]

/-- Of a port, only its text goes into the URL. -/
theorem map_addressOfParts_congr {port port' : Option (Option Value)}
    (h : port.map portText = port'.map portText) (raw protocol host : Option String) :
    port.map (addressOfParts raw protocol host) = port'.map (addressOfParts raw protocol host) := by
  cases port with
  | none =>
    cases port' with
    | none => rfl
    | some => cases h
  | some p =>
    cases port' with
    | none => cases h
    | some p' =>
      have same : portText p = portText p' := Option.some.inj h
      refine congrArg some ?_
      funext path query pathVars
      simp only [addressOfParts, assemble, same]

/-- An address with alike members is the same. -/
theorem addressOf?_congr (h : AlikeUnder .address ms ms') : addressOf? ms = addressOf? ms' := by
  simp only [AlikeUnder, Part.fields, List.Forall, Part.decoder, Part.Result, forall_const] at h
  obtain ⟨raw, protocol, host, port, path, query, pathVars⟩ := h
  have texts : (given? .any (under "port" ms)).map portText =
      (given? .any (under "port" ms')).map portText := by
    have whole : portText = (·.getD "") ∘ Option.map fun port ↦ portText (some port) := by
      funext port
      cases port <;> rfl
    rw [given?_map, given?_map] at port
    rw [whole, ← Option.map_map, ← Option.map_map, port]
  have front : addressOfParts <$> given? .text (under "raw" ms) <*>
        given? .text (under "protocol" ms) <*> given? (segments ".") (under "host" ms) <*>
        given? .any (under "port" ms) =
      addressOfParts <$> given? .text (under "raw" ms') <*>
        given? .text (under "protocol" ms') <*> given? (segments ".") (under "host" ms') <*>
        given? .any (under "port" ms') := by
    rw [raw, protocol, host]
    cases given? .text (under "raw" ms') with
    | none => rfl
    | some raw =>
      cases given? .text (under "protocol" ms') with
      | none => rfl
      | some protocol =>
        cases given? (segments ".") (under "host" ms') with
        | none => rfl
        | some host => exact map_addressOfParts_congr texts raw protocol host
  rw [addressOf?, front, path, query, pathVars, addressOf?]

end Records

/-! ### Spellings read alike -/

variable {part : Part}

theorem bind_eq_of_rel {α β : Type} {r : α → α → Prop} {a a' : Option α} {f f' : α → Option β}
    (h : Option.Rel r a a') (same : ∀ x x', r x x' → f x = f' x') : a.bind f = a'.bind f' := by
  cases h with
  | some h => exact same _ _ h
  | none => rfl

/-- A record is read alike from two objects, or two arrays, whose fields are read alike. -/
theorem alike_of_record? {v v' : Value} (record : part.fields ≠ [])
    (compound : v.kind = .object ∧ v'.kind = .object ∨ v.kind = .array ∧ v'.kind = .array)
    (h : Option.Rel (AlikeUnder part) (v.record? part.fields.names)
      (v'.record? part.fields.names)) : Alike part v v' := by
  have members {β : Type} {f f' : List (String × Value) → Option β} :=
    @bind_eq_of_rel _ β _ _ _ f f' h
  -- A description or a segment is read from an object only.
  have object : Option.Rel (AlikeUnder part) v.object? v'.object? := by
    rcases compound with ⟨kind, kind'⟩ | ⟨kind, kind'⟩
    · cases v <;> cases kind
      cases v' <;> cases kind'
      exact h
    · cases v <;> cases kind
      cases v' <;> cases kind'
      exact .none
  have untold {w : Value} (kind : w.kind = .object ∨ w.kind = .array) :
      w.kind ≠ .null ∧ w.string? = none := by
    cases w with
    | object | array => exact ⟨nofun, rfl⟩
    | null | bool | number | string => simp [Value.kind] at kind
  obtain ⟨null, text⟩ := untold (compound.imp And.left And.left)
  obtain ⟨null', text'⟩ := untold (compound.imp And.right And.right)
  have root : v.isObject = v'.isObject := by
    rw [Value.isObject, Value.isObject]
    generalize v.object? = given, v'.object? = given' at object
    cases object <;> rfl
  refine ⟨iff_of_false null null', fun _ ↦ root, fun depth ↦ ?_⟩
  cases part <;> dsimp only [Part.decoder, Part.Result]
  case items | parameters | responses | host | path | port | text | code | value =>
    exact absurd rfl record
  case document =>
    rw [toOption_collection, toOption_collection]
    exact members fun _ _ h ↦ collectionOf?_congr h depth
  case info =>
    rw [toOption_info, toOption_info]
    exact members fun _ _ ↦ infoOf?_congr
  case item =>
    cases depth with
    | zero => rfl
    | succ depth =>
      rw [toOption_item, toOption_item]
      exact members fun _ _ h ↦ itemOf?_congr h depth
  case request =>
    rw [toOption_request, toOption_request, text, text']
    exact members fun _ _ ↦ requestOf?_congr
  case address =>
    rw [toOption_address, toOption_address, text, text']
    exact members fun _ _ ↦ addressOf?_congr
  case parameter =>
    rw [toOption_parameter, toOption_parameter]
    exact members fun _ _ ↦ parameterOf?_congr
  case body =>
    rw [toOption_body, toOption_body]
    exact members fun _ _ ↦ bodyOf?_congr
  case response =>
    rw [toOption_response, toOption_response]
    exact members fun _ _ ↦ responseOf?_congr
  case description =>
    rw [toOption_description, toOption_description, text, text',
      bind_eq_of_rel object fun _ _ ↦ contentOf?_congr]
  case segment =>
    rw [toOption_segment, toOption_segment, text, text',
      bind_eq_of_rel object fun _ _ ↦ segmentOf?_congr]

/-- No part has two fields of one name. -/
theorem Part.nodup_names_fields (part : Part) : part.fields.names.Nodup := by
  cases part <;> decide

/-- No other field of a record has the name of a field. -/
theorem Part.eq_of_mem_fields {inner inner' : Part} {name : String}
    (h : (name, inner) ∈ part.fields) (h' : (name, inner') ∈ part.fields) : inner = inner' := by
  have first := (Table.get?_eq_some_iff part.nodup_names_fields).2 h
  rw [(Table.get?_eq_some_iff part.nodup_names_fields).2 h'] at first
  exact (Option.some.inj first).symm

/-- The fields of a record are read alike where one of the members is. -/
theorem alikeUnder_member {inner : Part} {name : String} {v v' : Value}
    (field : (name, inner) ∈ part.fields) (h : Alike inner v v')
    (before after : List (String × Value)) :
    AlikeUnder part (before ++ (name, v) :: after) (before ++ (name, v') :: after) := by
  refine List.forall_iff_forall_mem.2 fun (k, other) hk depth ↦ ?_
  simp only [Value.under_append, Value.under_cons]
  by_cases same : name = k
  · subst same
    obtain rfl := Part.eq_of_mem_fields field hk
    simpa only [if_true] using h.given?_congr depth _ _
  · simp only [if_neg same]

/-- The item of an array that stands for a record in the place of a field is the member of it. -/
theorem record?_array_append {inner : Part} {name : String} {before : List Value}
    (field : part.fields[before.length]? = some (name, inner)) (after : List Value) :
    ∃ front rest, ∀ v, (Value.array (before ++ v :: after)).record? part.fields.names =
      if before.length + (after.length + 1) = part.fields.length then
        some (front ++ (name, v) :: rest)
      else none := by
  obtain ⟨inside, holds⟩ := List.getElem?_eq_some_iff.1 field
  have names : part.fields.names = (part.fields.take before.length).map (·.1) ++
      name :: (part.fields.drop (before.length + 1)).map (·.1) := by
    conv_lhs => rw [← List.take_append_drop before.length part.fields,
      List.drop_eq_getElem_cons inside, holds]
    exact List.map_append
  have length : ((part.fields.take before.length).map (·.1)).length = before.length := by
    rw [List.length_map, List.length_take, Nat.min_eq_left (Nat.le_of_lt inside)]
  refine ⟨((part.fields.take before.length).map (·.1)).zip before,
    ((part.fields.drop (before.length + 1)).map (·.1)).zip after, fun v ↦ ?_⟩
  have total : part.fields.names.length = part.fields.length := List.length_map _
  rw [Value.record?, List.length_append, List.length_cons, total]
  rw [names, List.zip_append length, List.zip_cons_cons]

/-- The fields of a record are read alike where a member that is null is added. -/
theorem alikeUnder_absent {name : String} {before after : List (String × Value)}
    (fresh : name ∉ Table.names (before ++ after)) :
    AlikeUnder part (before ++ after) (before ++ (name, .null) :: after) := by
  refine List.forall_iff_forall_mem.2 fun (k, other) hk depth ↦ ?_
  by_cases same : name = k
  · subst same
    rw [Table.names_append, List.mem_append, not_or] at fresh
    simp [Value.under_cons, Value.under_eq_nil fresh.1, Value.under_eq_nil fresh.2]
  · simp [Value.under_cons, same]

/-- A list is read alike where one of its elements is. -/
theorem alike_element {inner : Part} {v v' : Value} (each : part.element? = some inner)
    (h : Alike inner v v') (before after : List Value) :
    Alike part (.array (before ++ v :: after)) (.array (before ++ v' :: after)) := by
  refine ⟨iff_of_false nofun nofun, fun _ ↦ rfl, fun depth ↦ ?_⟩
  have listed : (Decoder.list (inner.decoder depth)
        (.ofValue (.array (before ++ v :: after)))).toOption =
      (Decoder.list (inner.decoder depth) (.ofValue (.array (before ++ v' :: after)))).toOption :=
    Json.toOption_list_congr (by simp only [List.map_append, List.map_cons, h.read depth])
  cases part <;> cases each
  case items | parameters | responses => exact listed
  case host | path =>
    dsimp only [Part.decoder, Part.Result]
    rw [toOption_segments, toOption_segments, ← Json.toOption_list, ← Json.toOption_list]
    exact congrArg _ (congrArg _ listed)

/-- Segments that are texts are read as the text that joins them. -/
theorem toOption_segments_strings (separator : String) (ss : List String) :
    (segments separator (.ofValue (.array (ss.map .string)))).toOption =
      some (separator.intercalate ss) := by
  have texts : (ss.map Value.string).mapM (fun v ↦ (segment (.ofValue v)).toOption) =
      some (ss.map some) := by
    rw [List.mapM_map]
    exact List.mapM_pure
  rw [toOption_segments]
  have kept : (ss.map some).filterMap id = ss := by
    rw [List.filterMap_map]
    exact List.filterMap_some
  exact (congrArg (Option.map _) texts).trans (congrArg (some <| separator.intercalate ·) kept)

/-- A port is read the same from a number and from the text of the number. -/
theorem portText_string_integer (n : Int) :
    portText (some (.string (.ofList (Json.Number.integerText n)))) =
      portText (some (.number (.integer n))) := by
  have digits : Json.Number.integerText n ≠ [] := by
    rw [Json.Number.integerText]
    split
    · exact nofun
    · exact Nat.toDigits_ne_nil
  rw [portText, if_neg]
  · rfl
  · simpa using digits

/-- Every respelling keeps what is read. -/
theorem Respelled.alike {v v' : Value} (h : Respelled part v v') : Alike part v v' := by
  induction h with
  | refl v => exact .refl _ v
  | symm _ h => exact h.symm
  | trans _ _ h h' => exact h.trans h'
  | description s =>
    refine ⟨iff_of_false nofun nofun, nofun, fun _ ↦ ?_⟩
    dsimp only [Part.decoder, Part.Result]
    rw [toOption_description, toOption_description]
    rfl
  | request u =>
    refine ⟨iff_of_false nofun nofun, nofun, fun _ ↦ ?_⟩
    dsimp only [Part.decoder, Part.Result]
    rw [toOption_request, toOption_request]
    rfl
  | address u =>
    refine ⟨iff_of_false nofun nofun, nofun, fun _ ↦ ?_⟩
    dsimp only [Part.decoder, Part.Result]
    rw [toOption_address, toOption_address]
    rfl
  | host ss =>
    refine ⟨iff_of_false nofun nofun, nofun, fun _ ↦ ?_⟩
    exact toOption_segments_strings "." ss
  | path ss =>
    refine ⟨iff_of_false nofun nofun, nofun, fun _ ↦ ?_⟩
    exact toOption_segments_strings "/" ss
  | segment s =>
    refine ⟨iff_of_false nofun nofun, nofun, fun _ ↦ ?_⟩
    dsimp only [Part.decoder, Part.Result]
    rw [toOption_segment, toOption_segment]
    rfl
  | port n =>
    refine ⟨iff_of_false nofun nofun, nofun, fun _ ↦ ?_⟩
    exact congrArg some (portText_string_integer n).symm
  | absent field fresh =>
    refine alike_of_record? (fun none ↦ ?_) (.inl ⟨rfl, rfl⟩) (.some (alikeUnder_absent fresh))
    rw [none] at field
    exact List.not_mem_nil field
  | member field _ h =>
    exact alike_of_record? (List.ne_nil_of_mem field) (.inl ⟨rfl, rfl⟩)
      (.some (alikeUnder_member field h _ _))
  | @position part inner name before after v v' field _ h =>
    have known : (name, inner) ∈ part.fields := List.mem_of_getElem? field
    obtain ⟨front, rest, given⟩ := record?_array_append field after
    refine alike_of_record? (List.ne_nil_of_mem known) (.inr ⟨rfl, rfl⟩) ?_
    rw [given, given]
    split
    · exact .some (alikeUnder_member known h front rest)
    · exact .none
  | element each _ h => exact alike_element each h _ _

end Document

open Json (Value)

/-- Two spellings of a document are read as the same collection, or neither is read. -/
theorem ofJson_respelled {v v' : Value} (h : Document.Respelled .document v v') :
    (ofJson v).toOption = (ofJson v').toOption := by
  have alike := h.alike
  have read : (Document.collection v.depth (.ofValue v)).toOption =
      (Document.collection v'.depth (.ofValue v')).toOption :=
    calc (Document.collection v.depth (.ofValue v)).toOption
      _ = (Document.collection (max v.depth v'.depth) (.ofValue v)).toOption :=
        Document.toOption_collection_of_le (Nat.le_refl _) (Nat.le_max_left ..)
      _ = (Document.collection (max v.depth v'.depth) (.ofValue v')).toOption := alike.read _
      _ = (Document.collection v'.depth (.ofValue v')).toOption :=
        Document.toOption_collection_of_le (Nat.le_max_right ..) (Nat.le_refl _)
  rw [ofJson, ofJson, alike.root rfl]
  split
  · rw [Json.toOption_mapError, Json.toOption_mapError, read]
  · rfl

/-- A document that spells everything in the shortest way. -/
def shortShop : Value :=
  .object
    [("info", .object [("name", .string "Shop"), ("description", .string "Sells.")]),
      ("item", .array [.object [("item", .array
        [.object [("request", .string "http://a.test/")],
          .object [("request", .object [("url", .object
            [("host", .array [.string "a", .string "test"]), ("port", .number (.integer 80)),
              ("path", .array [.string "v1", .string "x"])])])]])]])]

/-- The same document with other spellings, each at another depth. -/
def longShop : Value :=
  .object
    [("info", .object
        [("name", .string "Shop"), ("description", .object [("content", .string "Sells.")])]),
      ("item", .array [.object [("item", .array
        [.object [("request", .object [("url", .object [("raw", .string "http://a.test/")])]),
            ("response", .null)],
          .object [("request", .object [("url", .object
            [("host", .string "a.test"), ("port", .string "80"),
              ("path", .array [.string "v1", .object [("value", .string "x")]])])])]])]])]

/-- A shop is read the same from its short spelling and from its long one. -/
theorem ofJson_respelled_shop : Document.Respelled .document shortShop longShop ∧
    (ofJson shortShop).toOption = (ofJson longShop).toOption ∧
    (ofJson longShop).toOption.isSome := by
  open Document (Respelled) in
  have info := @Respelled.member .info .description "description"
    [("name", .string "Shop")] [] _ _ (by decide) (.description "Sells.")
  have bare := (Respelled.request "http://a.test/").trans
    (@Respelled.member .request .address "url" [] [] _ _ (by decide) (.address "http://a.test/"))
  have bareItem := (@Respelled.member .item .request "request" [] [] _ _ (by decide) bare).trans
    (@Respelled.absent .item "response" [("request", _)] [] (by decide) (by decide))
  have host : Respelled .host (.array [.string "a", .string "test"]) (.string "a.test") :=
    .host ["a", "test"]
  have port : Respelled .port (.number (.integer 80)) (.string "80") := .port 80
  have path := @Respelled.element .path .segment [.string "v1"] [] _ _ rfl (.segment "x")
  have parts := ((@Respelled.member .address .host "host" [] [("port", _), ("path", _)] _ _
      (by decide) host).trans
    (@Respelled.member .address .port "port" [("host", _)] [("path", _)] _ _ (by decide)
      port)).trans
    (@Respelled.member .address .path "path" [("host", _), ("port", _)] [] _ _ (by decide) path)
  have partsItem := @Respelled.member .item .request "request" [] [] _ _ (by decide)
    (@Respelled.member .request .address "url" [] [] _ _ (by decide) parts)
  have children := (@Respelled.element .items .item [] [_] _ _ rfl bareItem).trans
    (@Respelled.element .items .item [_] [] _ _ rfl partsItem)
  have folder := @Respelled.member .item .items "item" [] [] _ _ (by decide) children
  have whole : Respelled .document shortShop longShop :=
    (@Respelled.member .document .info "info" [] [("item", _)] _ _ (by decide) info).trans
      (@Respelled.member .document .items "item" [("info", _)] [] _ _ (by decide)
        (@Respelled.element .items .item [] [] _ _ rfl folder))
  exact ⟨whole, ofJson_respelled whole, by decide⟩

end Toolsmith.Collection
