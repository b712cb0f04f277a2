import Toolsmith.Json.Form

/-!
# Handlers

A handler says how the input of a tool becomes an HTTP request: its method, a URL with slots in
braces, the fields that go into slots and into the query, whether a body is sent, and fixed
headers. A slot runs from an opening brace to the next closing one; a brace without a partner is
plain text.

## Main definitions

* `Handler`: the record, with its JSON form.
* `Handler.slots`: the names of the slots, in order.
-/

namespace Toolsmith

/-- How the input of a tool becomes an HTTP request. -/
structure Handler where
  /-- The method. -/
  method : String
  /-- The URL, with slots for path parameters and environment variables. -/
  urlTemplate : String
  /-- The input fields that go into slots. -/
  pathParams : List String := []
  /-- The input fields that go into the query. -/
  queryParams : List String := []
  /-- Whether the body field is sent. -/
  sendBody : Bool := false
  /-- Fixed headers. -/
  headers : Table String := []
deriving DecidableEq

namespace Handler

/-- The headers of handlers that are made anew. -/
def defaultHeaders : Table String :=
  [("Content-Type", "application/json")]

/-- The text before the first occurrence of a character, and the text after it. -/
def splitAt? (c : Char) : List Char → Option (List Char × List Char)
  | [] => none
  | x :: xs =>
    if x = c then some ([], xs) else (splitAt? c xs).map fun parts ↦ (x :: parts.1, parts.2)

theorem splitAt?_length {c : Char} {cs before after : List Char}
    (h : splitAt? c cs = some (before, after)) : after.length < cs.length := by
  induction cs generalizing before after with
  | nil => simp [splitAt?] at h
  | cons x xs ih =>
    rw [splitAt?] at h
    split at h
    · simp only [Option.some.injEq, Prod.mk.injEq] at h
      simp [← h.2]
    · obtain ⟨⟨b, a⟩, hs, he⟩ := Option.map_eq_some_iff.1 h
      simp only [Prod.mk.injEq] at he
      have := ih hs
      rw [he.2] at this
      simpa using Nat.lt_succ_of_lt this

/-- The slots of a template. -/
def slotsOf (cs : List Char) : List String :=
  match h : splitAt? '{' cs with
  | none => []
  | some (_, opened) =>
    match h' : splitAt? '}' opened with
    | none => []
    | some (name, rest) =>
      have := splitAt?_length h
      have := splitAt?_length h'
      String.ofList name :: slotsOf rest
termination_by cs.length

/-- The names of the slots in the URL, in order. -/
def slots (h : Handler) : List String :=
  slotsOf h.urlTemplate.toList

open Json (Value)
open Json.Form (required defaulted)

/-- The record as a JSON value. -/
def toJson (h : Handler) : Value :=
  .object
    [("method", .string h.method), ("urlTemplate", .string h.urlTemplate),
      ("pathParams", .ofStrings h.pathParams), ("queryParams", .ofStrings h.queryParams),
      ("sendBody", .bool h.sendBody),
      ("headers", .object (h.headers.map fun e ↦ (e.1, .string e.2)))]

/-- Reads the record. -/
def decode : Json.Decoder Handler :=
  (Handler.mk <$> required "method" .text <*> required "urlTemplate" .text
    <*> defaulted "pathParams" [] (.list .text) <*> defaulted "queryParams" [] (.list .text)
    <*> defaulted "sendBody" false .bool <*> defaulted "headers" [] (.table .text)).decode
    "HandlerSpec"

end Handler

end Toolsmith
