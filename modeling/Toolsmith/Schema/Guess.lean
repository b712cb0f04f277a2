import Toolsmith.Decimal
import Toolsmith.Schema.Basic
import Toolsmith.Text.Blank

/-!
# Guessing the kind of an example

An example value says what kind of scalar a field holds. Numbers and texts that spell a finite
number are numbers, truth values and their two exact spellings are booleans, and everything else
is a text.

## Main definitions

* `ScalarKind.guess`: the kind of an example value.
* `ScalarKind.guess?`: the same where there may be no example.
-/

namespace Toolsmith.ScalarKind

/-- Whether a text spells a finite number, blanks around it aside. -/
def spellsNumber (s : String) : Bool :=
  match Decimal.ofChars? (Text.trimList s.toList) with
  | some x => x.isFinite
  | none => false

/-- The kind of an example value. -/
def guess : Json.Value → ScalarKind
  | .number _ => .number
  | .string s =>
    if spellsNumber s then .number
    else if s = "true" ∨ s = "false" then .boolean
    else .string
  | .bool _ => .boolean
  | _ => .string

/-- The kind of an example that may be absent. -/
def guess? : Option Json.Value → ScalarKind
  | some v => guess v
  | none => .string

end Toolsmith.ScalarKind
