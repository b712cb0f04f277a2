import Toolsmith.Json.Form

/-!
# Messages

Client and server exchange JSON-RPC messages. A request has an id and is answered by a response
with the same id; a notification has none and is not answered. A message that fails to be a
request, by its id for instance, may still be a notification.

## Main definitions

* `Server.RequestId`, `Server.Call`: an id, and a method with its parameters.
* `Server.Message`: a request or a notification.
* `Server.Response`, `Server.RpcError`: what is answered.
* `Server.Response.into`: the result of a response, read as some type.
-/

namespace Toolsmith.Server

open Json (Decoder Value)
open Json.Form (required optional omissible)

/-- The version of JSON-RPC. -/
def rpcVersion : String := "2.0"

/-- The id of a request. -/
inductive RequestId where
  /-- A whole number of 64 bits. -/
  | number (n : Int)
  /-- A text. -/
  | text (s : String)
deriving DecidableEq

namespace RequestId

/-- An id as a JSON value. -/
def toJson : RequestId → Value
  | .number n => .number (.integer n)
  | .text s => .string s

/-- Reads an id. -/
def decode : Decoder RequestId :=
  Json.oneOf "RequestId"
    [fun n ↦ (Decoder.integer64 n).map .number, fun n ↦ (Decoder.text n).map .text]

end RequestId

/-- A method with its parameters. -/
structure Call where
  /-- The version of JSON-RPC, as it was sent. -/
  version : String
  /-- The method. -/
  method : String
  /-- The parameters; null counts as none. -/
  params : Option Value

namespace Call

/-- The members with the method and the parameters. -/
def members (c : Call) : List (String × Value) :=
  ("method", .string c.method) :: (c.params.map fun p ↦ ("params", p)).toList

end Call

/-- A message from a client. -/
inductive Message where
  /-- A request, which is answered. -/
  | request (id : RequestId) (call : Call)
  /-- A notification, which is not. -/
  | notification (call : Call)

namespace Message

/-- The method of a message. -/
def method : Message → String
  | .request _ c => c.method
  | .notification c => c.method

/-- A message as a JSON value. -/
def toJson : Message → Value
  | .request id c =>
    .object (("jsonrpc", .string c.version) :: ("id", id.toJson) :: c.members)
  | .notification c => .object (("jsonrpc", .string c.version) :: c.members)

/-- Reads a request. -/
def decodeRequest : Decoder Message :=
  ((fun version id method params ↦ request id { version, method, params }) <$>
    required "jsonrpc" .text <*> required "id" RequestId.decode <*> required "method" .text
      <*> omissible "params" .any).decode "JsonRpcRequest"

/-- Reads a notification. -/
def decodeNotification : Decoder Message :=
  ((fun version method params ↦ notification { version, method, params }) <$>
    required "jsonrpc" .text <*> required "method" .text <*> omissible "params" .any).decode
    "JsonRpcNotification"

/-- Reads a message: a request if it can be one, else a notification. -/
def decode : Decoder Message :=
  Json.oneOf "JsonRpcMessage" [decodeRequest, decodeNotification]

/-- The message in a text. -/
def parse (s : String) : Except Json.Fault Message :=
  (Json.Document.ofText s).decode decode

end Message

/-! ### Responses -/

/-- What a response says is wrong. -/
structure RpcError where
  /-- The code. -/
  code : Int
  /-- The wording. -/
  message : String
  /-- More about it. -/
  data : Option Value := none

namespace RpcError

/-- The code of texts that are no messages. -/
def parseError : Int := -32700

/-- The code of responses that make no sense. -/
def invalidRequest : Int := -32600

/-- The code of unknown methods. -/
def methodNotFound : Int := -32601

/-- The code of parameters that make no sense. -/
def invalidParams : Int := -32602

/-- The code of requests that are turned away before they are looked at. -/
def serverError : Int := -32000

/-- The wording with the code. -/
def description (e : RpcError) : String :=
  s!"JSON-RPC error {e.code}: " ++ e.message

/-- An error as a JSON value. -/
def toJson (e : RpcError) : Value :=
  .object <|
    [("code", .number (.integer e.code)), ("message", .string e.message)] ++
    (e.data.map fun d ↦ ("data", d)).toList

/-- Reads an error. -/
def decode : Decoder RpcError :=
  (RpcError.mk <$> required "code" .integer32 <*> required "message" .text
    <*> omissible "data" .any).decode "JsonRpcError"

end RpcError

/-- What a request is answered with. -/
structure Response where
  /-- The version of JSON-RPC. -/
  version : String := rpcVersion
  /-- The id of the request; none where it could not be read. -/
  id : Option RequestId
  /-- The result. -/
  result : Option Value := none
  /-- What is wrong. -/
  error : Option RpcError := none

namespace Response

/-- The response with a result. -/
def success (id : RequestId) (result : Value) : Response :=
  { id := some id, result := some result }

/-- The response that something is wrong. -/
def failure (id : Option RequestId) (code : Int) (message : String) : Response :=
  { id, error := some { code, message } }

/-- Whether something is wrong. -/
def isError (r : Response) : Bool :=
  r.error.isSome

/-- A response as a JSON value. -/
def toJson (r : Response) : Value :=
  .object <|
    [("jsonrpc", .string r.version), ("id", (r.id.map RequestId.toJson).getD .null)] ++
    (r.result.map fun v ↦ ("result", v)).toList ++
    (r.error.map fun e ↦ ("error", e.toJson)).toList

/-- Reads a response. -/
def decode : Decoder Response :=
  (Response.mk <$> required "jsonrpc" .text <*> optional "id" RequestId.decode
    <*> omissible "result" .any <*> omissible "error" RpcError.decode).decode "JsonRpcResponse"

/-- The result of a response, read as some type. -/
def into {α : Type} (read : Decoder α) (r : Response) : Except RpcError α :=
  match r.error with
  | some e => .error e
  | none =>
    match r.result with
    | none => .error { code := RpcError.invalidRequest, message := "Missing result" }
    | some v =>
      (read (.ofValue v)).mapError fun f ↦
        { code := RpcError.invalidRequest, message := f.message }

end Response

end Toolsmith.Server
