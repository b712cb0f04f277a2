import Toolsmith.Collection.Document
import Toolsmith.Proofs.Json.Given

/-!
# What collection documents say

Each part of a document is read from its value: a record from what its members give to the names of
its fields, and a part with several spellings by the first of them that fits. Members of other
names, and the order of the members, do not matter. The bound on the depth of folders does not
matter either, once it is as large as the depth of the value.

## Main definitions

* `Document.parameterOf?`, `Document.addressOf?`, `Document.requestOf?`, `Document.itemOf?` and so
  on: what is read from the members of a record.

## Main statements

* `Document.toOption_parameter`, `Document.toOption_address`, `Document.toOption_request`,
  `Document.toOption_item` and so on: what is read from a value.
* `Document.toOption_item_of_le`: the bound on the depth does not matter.
-/

namespace Toolsmith.Collection.Document

open Json (Decoder Node Value)
open Json.Form (GoesBy given? optional_goesBy)
open Json.Value (under)

/-! ### Parts without records -/

/-- What a description is read from the members of an object. -/
def contentOf? (ms : List (String × Value)) : Option (Option String) :=
  given? .text (under "content" ms)

/-- A description is a text or an object that holds one, and counts only if it is not empty. -/
theorem toOption_description (v : Value) :
    (description (.ofValue v)).toOption =
      ((v.string?.map some).or (v.object?.bind contentOf?)).map (·.filter (!·.isEmpty)) := by
  have content : GoesBy _ contentOf? := optional_goesBy "content" .text
  rw [description, Json.toOption_map, Json.toOption_oneOf_ofValue, Json.toOption_map,
    Json.toOption_text, content.toOption_decodeObject]

/-- What a segment is read from the members of an object. -/
def segmentOf? (ms : List (String × Value)) : Option (Option String) :=
  given? .text (under "value" ms)

/-- A segment is a text or an object that holds one. -/
theorem toOption_segment (v : Value) :
    (segment (.ofValue v)).toOption = (v.string?.map some).or (v.object?.bind segmentOf?) := by
  have value : GoesBy _ segmentOf? := optional_goesBy "value" .text
  rw [segment, Json.toOption_oneOf_ofValue, Json.toOption_map, Json.toOption_text,
    value.toOption_decodeObject]

/-- Several segments are a text or a list of segments, which are joined. -/
theorem toOption_segments (separator : String) (v : Value) :
    (segments separator (.ofValue v)).toOption =
      v.string?.or ((v.array?.bind (·.mapM fun v ↦ (segment (.ofValue v)).toOption)).map
        fun parts ↦ separator.intercalate (parts.filterMap id)) := by
  rw [segments, Json.toOption_oneOf_ofValue, Json.toOption_map, Json.toOption_text,
    Json.toOption_list]

/-! ### Records -/

section Records

variable (ms : List (String × Value))

/-- What a description is read from the members of the record that it describes. -/
def descriptionOf? : Option (Option String) :=
  (·.join) <$> given? description (under "description" ms)

/-- What a path variable or a query parameter is read from its members. -/
def parameterOf? : Option Variable :=
  Variable.mk <$> given? .text (under "key" ms) <*> given? .any (under "value" ms)
    <*> descriptionOf? ms

/-- What a body is read from its members. -/
def bodyOf? : Option Body :=
  Body.mk <$> given? .text (under "mode" ms) <*> given? .text (under "raw" ms)

/-- What a saved response is read from its members. -/
def responseOf? : Option Example :=
  Example.mk <$> given? .text (under "name" ms) <*> given? .natural16 (under "code" ms)
    <*> given? .text (under "body" ms)

/-- What a URL is read from its parts. -/
def addressOf? : Option Address :=
  addressOfParts <$> given? .text (under "raw" ms) <*> given? .text (under "protocol" ms)
    <*> given? (segments ".") (under "host" ms) <*> given? .any (under "port" ms)
    <*> given? (segments "/") (under "path" ms) <*> given? (.list parameter) (under "query" ms)
    <*> given? (.list parameter) (under "variable" ms)

/-- What a request is read from its members. -/
def requestOf? : Option (Payload × Option String) :=
  (fun method url body description ↦ ({ method, address := url.getD {}, body }, description)) <$>
    given? .text (under "method" ms) <*> given? address (under "url" ms)
      <*> given? body (under "body" ms) <*> descriptionOf? ms

/-- What a node is read from its members, given a reader of its children. -/
def itemOf? (children : Decoder (List Item)) (ms : List (String × Value)) : Option Item :=
  assembleItem <$> given? .text (under "name" ms) <*> descriptionOf? ms
    <*> given? children (under "item" ms) <*> given? request (under "request" ms)
    <*> given? (.list response) (under "response" ms)

/-- What the name and the description of a collection are read from. -/
def infoOf? : Option (Option String × Option String) :=
  Prod.mk <$> given? .text (under "name" ms) <*> descriptionOf? ms

/-- What a collection is read from, given a reader of its nodes. -/
def collectionOf? (items : Decoder (List Item)) (ms : List (String × Value)) :
    Option Collection :=
  (fun info items ↦
      { name := info.bind (·.1), description := info.bind (·.2), items := items.getD [] }) <$>
    given? info (under "info" ms) <*> given? items (under "item" ms)

end Records

/-- The description of a part goes by its value. -/
theorem descriptionField_goesBy : descriptionField.GoesBy descriptionOf? :=
  (optional_goesBy "description" description).map _

/-- A parameter is read from its key, its value and its description. -/
theorem toOption_parameter (v : Value) :
    (parameter (.ofValue v)).toOption =
      (v.record? ["key", "value", "description"]).bind parameterOf? := by
  have record : GoesBy _ parameterOf? :=
    (((optional_goesBy "key" .text).map Variable.mk).seq (optional_goesBy "value" .any) rfl).seq
      descriptionField_goesBy rfl
  exact record.toOption_decode _ rfl (by decide) "RawVariable" v

/-- A body is read from its mode and its text. -/
theorem toOption_body (v : Value) :
    (body (.ofValue v)).toOption = (v.record? ["mode", "raw"]).bind bodyOf? := by
  have record : GoesBy _ bodyOf? :=
    ((optional_goesBy "mode" .text).map Body.mk).seq (optional_goesBy "raw" .text) rfl
  exact record.toOption_decode _ rfl (by decide) "RawBody" v

/-- A response is read from its name, its code and its body. -/
theorem toOption_response (v : Value) :
    (response (.ofValue v)).toOption = (v.record? ["name", "code", "body"]).bind responseOf? := by
  have record : GoesBy _ responseOf? :=
    (((optional_goesBy "name" .text).map Example.mk).seq (optional_goesBy "code" .natural16)
      rfl).seq (optional_goesBy "body" .text) rfl
  exact record.toOption_decode _ rfl (by decide) "RawResponse" v

/-- An address is a text, or a record of its parts. -/
theorem toOption_address (v : Value) :
    (address (.ofValue v)).toOption =
      (v.string?.map fun raw ↦ { raw }).or
        ((v.record? ["raw", "protocol", "host", "port", "path", "query", "variable"]).bind
          addressOf?) := by
  have record : GoesBy _ addressOf? :=
    (((((((optional_goesBy "raw" .text).map addressOfParts).seq
      (optional_goesBy "protocol" .text) rfl).seq (optional_goesBy "host" (segments ".")) rfl).seq
      (optional_goesBy "port" .any) rfl).seq (optional_goesBy "path" (segments "/")) rfl).seq
      (optional_goesBy "query" (.list parameter)) rfl).seq
      (optional_goesBy "variable" (.list parameter)) rfl
  have parts := record.toOption_decode
    ["raw", "protocol", "host", "port", "path", "query", "variable"] rfl (by decide) "RawUrlParts" v
  rw [address, Json.toOption_oneOf_ofValue, Json.toOption_map, Json.toOption_text, parts]

/-- A request is the text of its address, or a record. -/
theorem toOption_request (v : Value) :
    (request (.ofValue v)).toOption =
      (v.string?.map fun raw ↦ ({ address := { raw } }, none)).or
        ((v.record? ["method", "url", "body", "description"]).bind requestOf?) := by
  have record : GoesBy _ requestOf? :=
    ((((optional_goesBy "method" .text).map _).seq (optional_goesBy "url" address) rfl).seq
      (optional_goesBy "body" body) rfl).seq descriptionField_goesBy rfl
  have object := record.toOption_decode ["method", "url", "body", "description"] rfl (by decide)
    "RawRequestObject" v
  rw [request, Json.toOption_oneOf_ofValue, Json.toOption_map, Json.toOption_text, object]

/-- An item is a record, whose own items are less deep. -/
theorem toOption_item (depth : Nat) (v : Value) :
    (item (depth + 1) (.ofValue v)).toOption =
      (v.record? ["name", "description", "item", "request", "response"]).bind
        (itemOf? (.list (item depth))) := by
  have record : GoesBy _ (itemOf? (.list (item depth))) :=
    (((((optional_goesBy "name" .text).map assembleItem).seq descriptionField_goesBy rfl).seq
      (optional_goesBy "item" (.list (item depth))) rfl).seq (optional_goesBy "request" request)
      rfl).seq (optional_goesBy "response" (.list response)) rfl
  exact record.toOption_decode _ rfl (by decide) "RawItem" v

/-- The information about a collection is a name and a description. -/
theorem toOption_info (v : Value) :
    (info (.ofValue v)).toOption = (v.record? ["name", "description"]).bind infoOf? := by
  have record : GoesBy _ infoOf? :=
    ((optional_goesBy "name" .text).map Prod.mk).seq descriptionField_goesBy rfl
  exact record.toOption_decode _ rfl (by decide) "RawInfo" v

/-- A collection is the information about it and its items. -/
theorem toOption_collection (depth : Nat) (v : Value) :
    (collection depth (.ofValue v)).toOption =
      (v.record? ["info", "item"]).bind (collectionOf? (.list (item depth))) := by
  have record : GoesBy _ (collectionOf? (.list (item depth))) :=
    ((optional_goesBy "info" info).map _).seq (optional_goesBy "item" (.list (item depth))) rfl
  exact record.toOption_decode _ rfl (by decide) "RawCollection" v

/-! ### The bound on the depth -/

/-- Children are read alike by readers of nodes that agree on all that is less deep. -/
theorem given?_list_congr {names : List String} {v : Value} {ms : List (String × Value)}
    {read read' : Decoder Item} (h : v.record? names = some ms)
    (agree : ∀ w : Value, w.depth + 1 < v.depth →
      (read (.ofValue w)).toOption = (read' (.ofValue w)).toOption) (name : String) :
    given? (.list read) (under name ms) = given? (.list read') (under name ms) := by
  refine Json.Form.given?_congr fun children hc ↦ ?_
  have shallow : children.depth < v.depth :=
    Value.depth_lt_of_record? h (Value.mem_of_mem_under hc)
  cases children with
  | array vs =>
    refine Json.toOption_list_congr (List.map_congr_left fun w hw ↦ agree w ?_)
    exact Nat.lt_of_le_of_lt (Value.depth_lt_of_mem_array hw) shallow
  | null | bool | number | string | object => rfl

/-- A value without depth is no node. -/
theorem toOption_item_of_flat {v : Value} (flat : v.depth = 0) (depth : Nat) :
    (item depth (.ofValue v)).toOption = none := by
  cases depth with
  | zero => rfl
  | succ depth =>
    rw [toOption_item]
    cases v with
    | array | object => exact absurd flat (Nat.succ_ne_zero _)
    | null | bool | number | string => rfl

/-- The bound on the depth does not matter to a node that is not deeper. -/
theorem toOption_item_of_le {depth depth' : Nat} {v : Value} (h : v.depth ≤ depth)
    (h' : v.depth ≤ depth') :
    (item depth (.ofValue v)).toOption = (item depth' (.ofValue v)).toOption := by
  induction depth generalizing depth' v with
  | zero =>
    have flat : v.depth = 0 := Nat.le_zero.1 h
    rw [toOption_item_of_flat flat, toOption_item_of_flat flat]
  | succ depth ih =>
    cases depth' with
    | zero =>
      have flat : v.depth = 0 := Nat.le_zero.1 h'
      rw [toOption_item_of_flat flat, toOption_item_of_flat flat]
    | succ depth' =>
      rw [toOption_item, toOption_item]
      refine Option.bind_congr fun ms record ↦ ?_
      have children := given?_list_congr record (fun w shallow ↦
        @ih depth' w (by omega) (by omega)) "item"
      rw [itemOf?, itemOf?, children]

/-- The bound on the depth does not matter to a collection that is not deeper. -/
theorem toOption_collection_of_le {depth depth' : Nat} {v : Value} (h : v.depth ≤ depth)
    (h' : v.depth ≤ depth') :
    (collection depth (.ofValue v)).toOption = (collection depth' (.ofValue v)).toOption := by
  rw [toOption_collection, toOption_collection]
  refine Option.bind_congr fun ms record ↦ ?_
  have items := given?_list_congr record (fun w shallow ↦
    @toOption_item_of_le depth depth' w (by omega) (by omega)) "item"
  rw [collectionOf?, collectionOf?, items]

end Toolsmith.Collection.Document
