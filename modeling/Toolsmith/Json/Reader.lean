import Toolsmith.Json.Lexeme

/-!
# Reading JSON text

From text to nodes. The reader never gives up: where the text stops making sense it leaves a
broken node, so that whoever goes through the nodes in order meets the fault where it stands. An
array or object inside 127 others cannot be read but can be skipped.

Of three calls in a row at least one consumes a character, so three times the length of the text
bounds the depth of the calls.

## Main definitions

* `Json.Document`: the root of a text and what follows it.
* `Json.Document.ofText`: the document of a text.
* `Json.parse`: the value of a text.
-/

namespace Toolsmith.Json

/-- How many arrays and objects may be open at a time. -/
def maxDepth : Nat := 127

/-- The place where reading resumes after a member or its name: behind blanks and a closing
brace. -/
def resumeMember (c : Cursor) : Position :=
  match c.rest with
  | '}' :: _ => c.place.plus 1
  | _ => c.place

/-- The place where reading resumes after an item: behind blanks and a closing bracket, or a
comma and the blanks after it. -/
def resumeItem (c : Cursor) : Position :=
  match c.rest with
  | ']' :: _ => c.place.plus 1
  | ',' :: r => (skipBlanks r (c.place.plus 1)).place
  | _ => c.place

/-- The node of a scalar lexeme that begins at a place. -/
def Lexed.toNode {α : Type} (start : Position) (wrap : α → Scalar) :
    Lexed α → Node × Option Cursor
  | .token a next => (.scalar (wrap a) (some start) (some next.place), some next)
  | .unreadable f next => (.unreadable (some start) f, some next)
  | .broken f g => (.broken (some start) f g, none)

/-- A node that can only be skipped, for another cause. -/
def Node.barred (start : Position) (f : Fault) : Node → Option Cursor → Node
  | _, some _ => .unreadable (some start) f
  | n, none =>
    match n.skip with
    | .ok _ => .unreadable (some start) f
    | .error g => .broken (some start) f g

/-- The end of what can be made out, the same for a reader and for one who skips. -/
def Node.stuck (start : Option Position) (cause : Cause) (p : Position) : Node :=
  .broken start ⟨cause, some p⟩ ⟨cause, some p⟩

/-- An item that breaks off. -/
def Item.broken (p : Position) (onRead onSkip : Cause) : Item :=
  .mk (some p) (.broken none ⟨onRead, some p⟩ ⟨onSkip, some p⟩) none

/-- A member that breaks off before its name, and what stands in place of the name. -/
def Member.stuck (found : Node) (p : Position) (onRead onSkip : Cause) : Member :=
  .broken found ⟨onRead, some p⟩ ⟨onSkip, some p⟩

mutual
/-- Reads the node at the beginning of the remaining text, which is not blank. The first argument
bounds the depth of the calls, the second one is the number of arrays and objects that may still
be opened. -/
def readNode : Nat → Nat → Cursor → Node × Option Cursor
  | 0, _, c => (.stuck none .endInValue c.place, none)
  | fuel + 1, depth, c =>
    match c.rest with
    | [] => (.stuck none .endInValue c.place, none)
    | x :: r =>
      let p := c.place
      if x = 'n' then (readWord () ['u', 'l', 'l'] r (p.plus 1)).toNode p fun _ ↦ .null
      else if x = 't' then (readWord true ['r', 'u', 'e'] r (p.plus 1)).toNode p .bool
      else if x = 'f' then (readWord false ['a', 'l', 's', 'e'] r (p.plus 1)).toNode p .bool
      else if x = '"' then (readString r (p.plus 1) [] none).toNode p .string
      else if x = '-' then (readNumber true r (p.plus 1)).toNode p .number
      else if isDigit x then (readNumber false (x :: r) p).toNode p .number
      else if x = '[' then
        let (items, next) := readItems fuel (depth - 1) true (skipBlanks r (p.plus 1))
        let n := Node.array (some p) items (next.map (·.place))
        (if depth = 0 then n.barred p ⟨.tooDeep, some (p.plus 1)⟩ next else n, next)
      else if x = '{' then
        let (members, next) := readMembers fuel (depth - 1) true (skipBlanks r (p.plus 1))
        let n := Node.object (some p) members (next.map (·.place))
        (if depth = 0 then n.barred p ⟨.tooDeep, some (p.plus 1)⟩ next else n, next)
      else (.stuck (some p) .expectedValue (p.ahead (x :: r)), none)

/-- Reads the items of an array from a text that is not blank, up to and with the closing
bracket. -/
def readItems : Nat → Nat → Bool → Cursor → List Item × Option Cursor
  | 0, _, _, c => ([.broken c.place .endInList .endInList], none)
  | fuel + 1, depth, first, c =>
    let p := c.place
    match c.rest with
    | [] => ([.broken p .endInList .endInList], none)
    | ']' :: r => ([], some ⟨r, p.plus 1⟩)
    | x :: r =>
      if first then readItemsFrom fuel depth c
      else if x = ',' then
        let c := skipBlanks r (p.plus 1)
        match c.rest with
        | [] => ([.broken c.place .endInValue .endInValue], none)
        | ']' :: _ => ([.broken (c.place.plus 1) .trailingComma .expectedValue], none)
        | _ => readItemsFrom fuel depth c
      else
        ([.broken (p.ahead (x :: r)) .expectedCommaOrBracket .expectedCommaOrBracket], none)

/-- Reads an item and those after it. -/
def readItemsFrom : Nat → Nat → Cursor → List Item × Option Cursor
  | 0, _, c => ([.broken c.place .endInList .endInList], none)
  | fuel + 1, depth, c =>
    let head := some (c.place.ahead c.rest)
    match readNode fuel depth c with
    | (n, none) => ([.mk head n none], none)
    | (n, some next) =>
      let next := skipBlanks next.rest next.place
      let (items, last) := readItems fuel depth false next
      (.mk head n (some (resumeItem next)) :: items, last)

/-- Reads the members of an object from a text that is not blank, up to and with the closing
brace. -/
def readMembers : Nat → Nat → Bool → Cursor → List Member × Option Cursor
  | 0, _, _, c => ([.stuck default c.place .endInObject .endInObject], none)
  | fuel + 1, depth, first, c =>
    let p := c.place
    match c.rest with
    | [] => ([.stuck (readNode fuel depth c).1 p .endInObject .endInObject], none)
    | '}' :: r => ([], some ⟨r, p.plus 1⟩)
    | x :: r =>
      if first then
        if x = '"' then readMembersFrom fuel depth ⟨r, p.plus 1⟩
        else
          ([.stuck (readNode fuel depth c).1 (p.ahead (x :: r)) .keyNotString .keyNotString], none)
      else if x = ',' then
        let c := skipBlanks r (p.plus 1)
        match c.rest with
        | [] => ([.stuck default c.place .endInValue .endInObject], none)
        | '"' :: r => readMembersFrom fuel depth ⟨r, c.place.plus 1⟩
        | '}' :: _ => ([.stuck default (c.place.plus 1) .trailingComma .keyNotString], none)
        | y :: r =>
          ([.stuck default (c.place.ahead (y :: r)) .keyNotString .keyNotString], none)
      else
        ([.stuck default (p.ahead (x :: r)) .expectedCommaOrBrace .expectedCommaOrBrace], none)

/-- Reads a member after the opening quote of its name, and those after it. -/
def readMembersFrom : Nat → Nat → Cursor → List Member × Option Cursor
  | 0, _, c => ([.stuck default c.place .endInObject .endInObject], none)
  | fuel + 1, depth, c =>
    let read : Except (Fault × Fault) (Except Fault String × Cursor) :=
      match readString c.rest c.place [] none with
      | .token k next => .ok (.ok k, next)
      | .unreadable f next => .ok (.error f, next)
      | .broken f g => .error (f, g)
    match read with
    | .error (f, g) => ([.broken (.broken none f g) f g], none)
    | .ok (key, next) =>
      let keyStop := some next.place
      let next := skipBlanks next.rest next.place
      let keyResume := some (resumeMember next)
      match next.rest with
      | [] => ([.mk key keyStop keyResume (.stuck none .endInObject next.place) none], none)
      | ':' :: r =>
        let c := skipBlanks r (next.place.plus 1)
        match readNode fuel depth c with
        | (n, none) => ([.mk key keyStop keyResume n none], none)
        | (n, some next) =>
          let next := skipBlanks next.rest next.place
          let (members, last) := readMembers fuel depth false next
          (.mk key keyStop keyResume n (some (resumeMember next)) :: members, last)
      | x :: r =>
        let stuck := Node.stuck none .expectedColon (next.place.ahead (x :: r))
        ([.mk key keyStop keyResume stuck none], none)
end

/-- A text read as JSON. -/
structure Document where
  /-- The root. -/
  root : Node
  /-- The fault of a text that goes on after its root. -/
  trailing : Except Fault Unit

namespace Document

/-- The document of a text. -/
def ofText (s : String) : Document :=
  let cs := s.toList
  let (root, next) := readNode (3 * cs.length + 3) maxDepth (skipBlanks cs .start)
  match next with
  | none => ⟨root, .ok ()⟩
  | some c =>
    let c := skipBlanks c.rest c.place
    match c.rest with
    | [] => ⟨root, .ok ()⟩
    | r => ⟨root, .error ⟨.trailingCharacters, some (c.place.ahead r)⟩⟩

/-- What a reader of nodes makes of a document. -/
def decode {α : Type} (read : Node → Except Fault α) (d : Document) : Except Fault α := do
  let a ← read d.root
  d.trailing
  return a

end Document

/-- The value of a text. -/
def parse (s : String) : Except Fault Value :=
  (Document.ofText s).decode Node.value

end Toolsmith.Json
