import Toolsmith.Binary64.Shortest
import Toolsmith.Table

/-!
# JSON values and their text

A JSON value is a tree; the members of an object are an ordered table. A number is a whole
number of 64 bits, signed or unsigned, or a finite binary64 number. The text of a value is
written in one of two layouts that differ only in line breaks, indentation and the space after a
colon.

## Main definitions

* `Json.Number`, `Json.Value`: numbers and values.
* `Json.Value.write`: the text in a layout, as characters.
* `Json.Value.compact`, `Json.Value.pretty`: the text in either layout.
* `Json.Value.depth`: how deep a value is nested.
-/

namespace Toolsmith.Json

/-- A JSON number. -/
inductive Number where
  /-- A whole number from `-2 ^ 63` to `2 ^ 64 - 1`. -/
  | integer (n : Int)
  /-- A finite binary64 number, written with a point or an exponent. -/
  | double (x : Binary64)
deriving DecidableEq, Inhabited

namespace Number

/-- The text of a whole number. -/
def integerText (n : Int) : List Char :=
  if n < 0 then '-' :: Nat.toDigits 10 n.natAbs else Nat.toDigits 10 n.natAbs

/-- The text of a number. -/
def text : Number → List Char
  | .integer n => integerText n
  | .double x => x.text

/-- Whether the number is zero. -/
def isZero : Number → Bool
  | .integer n => n == 0
  | .double x => x.isZero

end Number

/-- A JSON value. -/
inductive Value where
  | null
  | bool (b : Bool)
  | number (n : Number)
  | string (s : String)
  | array (items : List Value)
  | object (members : List (String × Value))
deriving Inhabited

/-- The six kinds of JSON values. -/
inductive Kind where
  | null
  | boolean
  | number
  | string
  | array
  | object
deriving DecidableEq

/-- The name of a kind. -/
def Kind.name : Kind → String
  | .null => "null"
  | .boolean => "boolean"
  | .number => "number"
  | .string => "string"
  | .array => "array"
  | .object => "object"

/-- Where the text of a value breaks into lines. -/
inductive Layout where
  /-- On one line, without spaces. -/
  | compact
  /-- One item or member a line, each level indented by two spaces. -/
  | pretty
deriving DecidableEq

namespace Layout

/-- What stands before an item, a member or a closing bracket at a level. -/
def lineBreak : Layout → Nat → List Char
  | .compact, _ => []
  | .pretty, level => '\n' :: List.replicate (2 * level) ' '

/-- What stands between a member's name and its value. -/
def colon : Layout → List Char
  | .compact => [':']
  | .pretty => [':', ' ']

end Layout

/-- One character of a string, escaped where it has to be. -/
def escape (c : Char) : List Char :=
  if c = '"' then ['\\', '"']
  else if c = '\\' then ['\\', '\\']
  else if c = '\n' then ['\\', 'n']
  else if c = '\r' then ['\\', 'r']
  else if c = '\t' then ['\\', 't']
  else if c = Char.ofNat 8 then ['\\', 'b']
  else if c = Char.ofNat 12 then ['\\', 'f']
  else if c.toNat < 0x20 then
    ['\\', 'u', '0', '0', Nat.digitChar (c.toNat / 16), Nat.digitChar (c.toNat % 16)]
  else [c]

/-- The text of a string. -/
def writeString (s : String) : List Char :=
  '"' :: (s.toList.flatMap escape ++ ['"'])

namespace Value

mutual
/-- The text of a value whose first line stands at a level of indentation. -/
def write (layout : Layout) (level : Nat) : Value → List Char
  | .null => ['n', 'u', 'l', 'l']
  | .bool true => ['t', 'r', 'u', 'e']
  | .bool false => ['f', 'a', 'l', 's', 'e']
  | .number n => n.text
  | .string s => writeString s
  | .array [] => ['[', ']']
  | .array (x :: xs) =>
    '[' :: (layout.lineBreak (level + 1) ++ (x.write layout (level + 1) ++
      writeItems layout level xs))
  | .object [] => ['{', '}']
  | .object ((k, x) :: ms) =>
    '{' :: (layout.lineBreak (level + 1) ++ (writeString k ++ (layout.colon ++
      (x.write layout (level + 1) ++ writeMembers layout level ms))))

/-- The items after the first one, and the closing bracket. -/
def writeItems (layout : Layout) (level : Nat) : List Value → List Char
  | [] => layout.lineBreak level ++ [']']
  | x :: xs =>
    ',' :: (layout.lineBreak (level + 1) ++ (x.write layout (level + 1) ++
      writeItems layout level xs))

/-- The members after the first one, and the closing brace. -/
def writeMembers (layout : Layout) (level : Nat) : List (String × Value) → List Char
  | [] => layout.lineBreak level ++ ['}']
  | (k, x) :: ms =>
    ',' :: (layout.lineBreak (level + 1) ++ (writeString k ++ (layout.colon ++
      (x.write layout (level + 1) ++ writeMembers layout level ms))))
end

/-- The text on one line. -/
def compact (v : Value) : String :=
  String.ofList (v.write .compact 0)

/-- The text with one item or member a line. -/
def pretty (v : Value) : String :=
  String.ofList (v.write .pretty 0)

mutual
/-- How many arrays and objects stand inside each other. -/
def depth : Value → Nat
  | .array items => depthItems items + 1
  | .object members => depthMembers members + 1
  | _ => 0

/-- The depth of the deepest item. -/
def depthItems : List Value → Nat
  | [] => 0
  | v :: vs => max v.depth (depthItems vs)

/-- The depth of the deepest member. -/
def depthMembers : List (String × Value) → Nat
  | [] => 0
  | (_, v) :: ms => max v.depth (depthMembers ms)
end

/-- The kind of a value. -/
def kind : Value → Kind
  | .null => .null
  | .bool _ => .boolean
  | .number _ => .number
  | .string _ => .string
  | .array _ => .array
  | .object _ => .object

/-- The text of a string value. -/
def string? : Value → Option String
  | .string s => some s
  | _ => none

/-- The items of an array. -/
def array? : Value → Option (List Value)
  | .array items => some items
  | _ => none

/-- The members of an object. -/
def object? : Value → Option (Table Value)
  | .object members => some members
  | _ => none

/-- The value of a member; none where the value is no object. -/
def get? (v : Value) (name : String) : Option Value :=
  v.object?.bind (·.get? name)

/-- Whether the value is an object. -/
def isObject (v : Value) : Bool :=
  v.object?.isSome

/-- The value of a text, or null. -/
def ofString? : Option String → Value
  | some s => .string s
  | none => .null

/-- The array of texts. -/
def ofStrings (ss : List String) : Value :=
  .array (ss.map .string)

end Value

end Toolsmith.Json
