import Toolsmith.Json.Form

/-!
# Results of tool calls

Every call of a tool ends in a result: blocks of text, a mark whether it is an error, and for an
object also the object itself.

## Main definitions

* `Tool.Content`, `Tool.Result`: the results, with their JSON form.
* `Tool.Result.ofText`, `Tool.Result.ofJson`, `Tool.Result.ofError`: results with one block.
-/

namespace Toolsmith.Tool

open Json (Decoder Fault Member Node Value)

/-- A block of a result. -/
inductive Content where
  /-- A text. -/
  | text (text : String)
deriving DecidableEq

/-- The result of a call. -/
structure Result where
  /-- The blocks. -/
  content : List Content
  /-- The object that the text spells, if it is one. -/
  structured : Option Value := none
  /-- Whether the call failed. -/
  isError : Bool := false

namespace Content

/-- A block as a JSON value. -/
def toJson : Content → Value
  | .text t => .object [("type", .string "text"), ("text", .string t)]

/-- The kinds of blocks by name. -/
def kinds : Table Unit :=
  [("text", ())]

/-- Reads the kind of a block. -/
def decodeKind : Decoder Unit
  | .scalar (.string s) _ stop => Json.variant kinds s stop
  | n => .error (n.mismatch "variant identifier")

/-- Reads the kind among the members of a block, and tells the other members. -/
def splitKind : Bool → List Member → Except Fault (List Member)
  | known, [] => if known then .ok [] else .error (.unplaced (.missingField "type"))
  | _, .broken _ f _ :: _ => .error f
  | known, .mk key keyStop keyResume n resume :: rest => do
    let k ← key
    if k = "type" then
      if known then throw ⟨.duplicateField "type", keyResume⟩
      decodeKind n
      splitKind true rest
    else
      let _ ← n.value
      return .mk key keyStop keyResume n resume :: (← splitKind known rest)

/-- Reads what a text block holds besides its kind. -/
def decodeText : Decoder Content :=
  (Content.text <$> Json.Form.required "text" .text).decodeObject
    "struct variant ToolResultContent::Text"

/-- The text block that holds some values besides its kind. -/
def ofValues : List Value → Except Fault Content
  | [] =>
    .error (.unplaced (.invalidLength 0 "struct variant ToolResultContent::Text with 1 element"))
  | [.string t] => .ok (.text t)
  | .string _ :: rest =>
    .error (.unplaced (.invalidLength (rest.length + 1) "1 element in sequence"))
  | v :: _ => .error ((Node.ofValue v).mismatch "a string")

/-- Reads a block. What is wrong with its text has no place of its own. -/
def decode : Decoder Content
  | .object start members stop => do
    let members ← Json.placed stop (splitKind false members)
    (decodeText (.object start members stop)).mapError fun f ↦ .unplaced f.cause
  | .array _ [] stop => .error ⟨.missingField "type", stop⟩
  | .array _ (.mk _ n _ :: items) _ => do
    decodeKind n
    ofValues (← Node.values items)
  | n => .error (n.mismatch "internally tagged enum ToolResultContent")

end Content

namespace Result

open Json.Form (defaulted omissible required)

/-- The result that is a text. -/
def ofText (t : String) : Result :=
  { content := [.text t] }

/-- The result that is a value. -/
def ofJson (v : Value) : Result :=
  { content := [.text v.pretty], structured := if v.isObject then some v else none }

/-- The result that is an error. -/
def ofError (message : String) : Result :=
  { content := [.text message], isError := true }

/-- The first text. -/
def text? (r : Result) : Option String :=
  r.content.head?.map fun | .text t => t

/-- A result as a JSON value. -/
def toJson (r : Result) : Value :=
  .object <|
    [("content", .array (r.content.map Content.toJson))] ++
    (r.structured.map fun v ↦ ("structuredContent", v)).toList ++
    [("isError", .bool r.isError)]

/-- Reads a result. -/
def decode : Decoder Result :=
  (Result.mk <$> required "content" (.list Content.decode)
    <*> omissible "structuredContent" .any <*> defaulted "isError" false .bool).decode
    "CallToolResult"

end Result

end Toolsmith.Tool
