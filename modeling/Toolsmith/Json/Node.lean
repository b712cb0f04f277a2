import Toolsmith.Json.Fault

/-!
# Document nodes

A node is what a reader of a document works on: a value together with the places of its parts,
and with the faults of its text standing where they were met. Reading goes through a document in
order, so the first fault on the way is the one reported; a part that nobody asks for is skipped,
and skipping is more lenient than reading. Members keep their repetitions.

## Main definitions

* `Json.Node`, `Json.Item`, `Json.Member`: the tree.
* `Json.Node.ofValue`: the node of a value, without places or faults.
* `Json.Node.skip`: the fault that a skipped node shows, if any.
* `Json.Node.value`: the value of a node, or its first fault.
-/

namespace Toolsmith.Json

/-- A value that is neither array nor object. -/
inductive Scalar where
  | null
  | bool (b : Bool)
  | number (n : Number)
  | string (s : String)
deriving DecidableEq, Inhabited

/-- A scalar as something found. -/
def Scalar.found : Scalar → Found
  | .null => .null
  | .bool b => .bool b
  | .number n => .number n
  | .string s => .string s

/-- A scalar as a value. -/
def Scalar.value : Scalar → Value
  | .null => .null
  | .bool b => .bool b
  | .number n => .number n
  | .string s => .string s

mutual
/-- A part of a document. -/
inductive Node where
  /-- A scalar, the place before it and the place after it. -/
  | scalar (value : Scalar) (start stop : Option Position)
  /-- An array, the place before it and the place after it. -/
  | array (start : Option Position) (items : List Item) (stop : Option Position)
  /-- An object, the place before it and the place after it. -/
  | object (start : Option Position) (members : List Member) (stop : Option Position)
  /-- A part that can be skipped but has no value, and the place before it. -/
  | unreadable (start : Option Position) (fault : Fault)
  /-- The end of what can be made out, and the place before it unless the text ends there: the
  fault shown to a reader, and the one shown when the part is skipped. -/
  | broken (start : Option Position) (onRead onSkip : Fault)

/-- An item of an array. -/
inductive Item where
  /-- The place of the item's first byte, the item, and the place after it, its comma or bracket
  and the blanks around them. -/
  | mk (head : Option Position) (node : Node) (resume : Option Position)

/-- A member of an object. -/
inductive Member where
  /-- The name or its fault, the place after the name, the place after it, the blanks that follow
  and a closing brace, the member's node, and the place after that, the blanks that follow and a
  closing brace. -/
  | mk (key : Except Fault String) (keyStop keyResume : Option Position) (node : Node)
      (resume : Option Position)
  /-- The end of what can be made out, as of a node, and what stands in place of the name. -/
  | broken (found : Node) (onRead onSkip : Fault)
end

instance : Inhabited Node := ⟨.scalar .null none none⟩

/-- The node of an item. -/
def Item.node : Item → Node
  | .mk _ n _ => n

namespace Node

mutual
/-- The node of a value. -/
def ofValue : Value → Node
  | .null => .scalar .null none none
  | .bool b => .scalar (.bool b) none none
  | .number n => .scalar (.number n) none none
  | .string s => .scalar (.string s) none none
  | .array items => .array none (itemsOfValues items) none
  | .object members => .object none (membersOfValues members) none

/-- The items of an array value. -/
def itemsOfValues : List Value → List Item
  | [] => []
  | v :: vs => .mk none (ofValue v) none :: itemsOfValues vs

/-- The members of an object value. -/
def membersOfValues : List (String × Value) → List Member
  | [] => []
  | (k, v) :: ms => .mk (.ok k) none none (ofValue v) none :: membersOfValues ms
end

mutual
/-- The fault that shows when the node is skipped. -/
def skip : Node → Except Fault Unit
  | .array _ items _ => skipItems items
  | .object _ members _ => skipMembers members
  | .broken _ _ f => .error f
  | _ => .ok ()

/-- The fault that shows when items are skipped. -/
def skipItems : List Item → Except Fault Unit
  | [] => .ok ()
  | .mk _ n _ :: rest => do n.skip; skipItems rest

/-- The fault that shows when members are skipped. -/
def skipMembers : List Member → Except Fault Unit
  | [] => .ok ()
  | .mk _ _ _ n _ :: rest => do n.skip; skipMembers rest
  | .broken _ _ f :: _ => .error f
end

mutual
/-- The value of a node; a repeated member keeps its first place and its last value. -/
def value : Node → Except Fault Value
  | .scalar s _ _ => .ok s.value
  | .array _ items _ => do return .array (← values items)
  | .object _ members _ => do return .object (← table members [])
  | .unreadable _ f => .error f
  | .broken _ f _ => .error f

/-- The values of items. -/
def values : List Item → Except Fault (List Value)
  | [] => .ok []
  | .mk _ n _ :: rest => do
    let v ← n.value
    return v :: (← values rest)

/-- A table with the values of members put into it. -/
def table : List Member → Table Value → Except Fault (Table Value)
  | [], t => .ok t
  | .mk key _ _ n _ :: rest, t => do
    let k ← key
    let v ← n.value
    table rest (t.insert k v)
  | .broken _ f _ :: _, _ => .error f
end

/-- A fault that says something else was expected in place of this node. -/
def mismatch (n : Node) (expected : String) : Fault :=
  match n with
  | .scalar s _ stop => ⟨.invalidType s.found expected, stop⟩
  | .array start _ _ => ⟨.invalidType .sequence expected, start⟩
  | .object start _ _ => ⟨.invalidType .map expected, start⟩
  | .unreadable _ f => f
  | .broken _ f _ => f

end Node

end Toolsmith.Json
