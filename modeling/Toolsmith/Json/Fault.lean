import Toolsmith.Json.Value
import Toolsmith.Text.Quoted

/-!
# Faults of JSON documents

What can be wrong with a document: its text may not be JSON, or its value may not have the shape
that a reader asks for. A fault in a text has a place, a line and a column that counts bytes.

## Main definitions

* `Json.Position`: a place in a text.
* `Json.Cause`: what is wrong.
* `Json.Fault`: a cause with the place where it was seen, if there is one.
* `Json.Fault.message`: the wording.
-/

namespace Toolsmith.Json

/-- A place in a text: the line, from 1, and the number of bytes before the place on it. -/
structure Position where
  /-- The line, from 1. -/
  line : Nat
  /-- The number of bytes before the place on its line. -/
  column : Nat
deriving DecidableEq, Inhabited

namespace Position

/-- The beginning of a text. -/
def start : Position :=
  ⟨1, 0⟩

/-- The place after a character. -/
def after (p : Position) (c : Char) : Position :=
  if c = '\n' then ⟨p.line + 1, 0⟩ else ⟨p.line, p.column + c.utf8Size⟩

/-- The place after several characters. -/
def afterAll (p : Position) (cs : List Char) : Position :=
  cs.foldl after p

/-- The place after the first byte of what follows, the same place at the end of the text. -/
def ahead (p : Position) : List Char → Position
  | [] => p
  | c :: _ => if c = '\n' then ⟨p.line + 1, 0⟩ else ⟨p.line, p.column + 1⟩

end Position

/-- What was found where something else was expected. -/
inductive Found where
  | null
  | bool (b : Bool)
  | number (n : Number)
  | string (s : String)
  | sequence
  | map
  | unit
deriving DecidableEq

/-- The wording of what was found. -/
def Found.message : Found → String
  | .null => "null"
  | .bool b => s!"boolean `{b}`"
  | .number (.integer n) => s!"integer `{String.ofList (Number.integerText n)}`"
  | .number (.double x) => s!"floating point `{String.ofList x.text}`"
  | .string s => s!"string {Text.quote s}"
  | .sequence => "sequence"
  | .map => "map"
  | .unit => "unit value"

/-- What is wrong with a document. -/
inductive Cause where
  | endInValue
  | endInList
  | endInObject
  | endInString
  | expectedValue
  | expectedWord
  | expectedColon
  | expectedCommaOrBracket
  | expectedCommaOrBrace
  | keyNotString
  | trailingComma
  | trailingCharacters
  | invalidNumber
  | numberOutOfRange
  | invalidEscape
  | unfinishedSurrogate
  | loneSurrogate
  | controlCharacter
  | tooDeep
  | invalidType (found : Found) (expected : String)
  | invalidValue (found : Found) (expected : String)
  | invalidLength (length : Nat) (expected : String)
  | missingField (name : String)
  | duplicateField (name : String)
  | unknownVariant (name : String) (variants : List String)
  | noVariant (type : String)
deriving DecidableEq

/-- Whether the cause is met only between the quotes of a string. -/
def Cause.isInText : Cause → Bool
  | .endInString | .invalidEscape | .unfinishedSurrogate | .loneSurrogate
  | .controlCharacter => true
  | _ => false

/-- A name between backquotes. -/
def ticked (name : String) : String :=
  "`" ++ name ++ "`"

/-- The names that may stand in a place. -/
def expectedNames : List String → String
  | [] => "there are no variants"
  | [a] => "expected " ++ ticked a
  | [a, b] => "expected " ++ ticked a ++ " or " ++ ticked b
  | names => "expected one of " ++ ", ".intercalate (names.map ticked)

/-- The wording of a cause. -/
def Cause.message : Cause → String
  | .endInValue => "EOF while parsing a value"
  | .endInList => "EOF while parsing a list"
  | .endInObject => "EOF while parsing an object"
  | .endInString => "EOF while parsing a string"
  | .expectedValue => "expected value"
  | .expectedWord => "expected ident"
  | .expectedColon => "expected `:`"
  | .expectedCommaOrBracket => "expected `,` or `]`"
  | .expectedCommaOrBrace => "expected `,` or `\x7d`"
  | .keyNotString => "key must be a string"
  | .trailingComma => "trailing comma"
  | .trailingCharacters => "trailing characters"
  | .invalidNumber => "invalid number"
  | .numberOutOfRange => "number out of range"
  | .invalidEscape => "invalid escape"
  | .unfinishedSurrogate => "unexpected end of hex escape"
  | .loneSurrogate => "lone leading surrogate in hex escape"
  | .controlCharacter => "control character (\\u0000-\\u001F) found while parsing a string"
  | .tooDeep => "recursion limit exceeded"
  | .invalidType found expected => "invalid type: " ++ found.message ++ ", expected " ++ expected
  | .invalidValue found expected => "invalid value: " ++ found.message ++ ", expected " ++ expected
  | .invalidLength n expected => s!"invalid length {n}, expected " ++ expected
  | .missingField name => "missing field " ++ ticked name
  | .duplicateField name => "duplicate field " ++ ticked name
  | .unknownVariant name variants =>
    "unknown variant " ++ ticked name ++ ", " ++ expectedNames variants
  | .noVariant type => "data did not match any variant of untagged enum " ++ type

/-- A cause and the place where it was seen. -/
structure Fault where
  /-- What is wrong. -/
  cause : Cause
  /-- Where it was seen; none where the document is no text, or the place is not known. -/
  place : Option Position
deriving DecidableEq

namespace Fault

/-- A fault without a place. -/
def unplaced (cause : Cause) : Fault :=
  ⟨cause, none⟩

/-- The fault with a place, which it takes where it has none. -/
def placedAt (f : Fault) (mark : Option Position) : Fault :=
  ⟨f.cause, f.place.or mark⟩

/-- The wording of a fault. -/
def message (f : Fault) : String :=
  match f.place with
  | some p => f.cause.message ++ s!" at line {p.line} column {p.column}"
  | none => f.cause.message

end Fault

end Toolsmith.Json
