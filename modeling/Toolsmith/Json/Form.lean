import Toolsmith.Json.Reader

/-!
# Forms: records read from documents

A decoder takes a node to a typed value or to the first fault on the way. A form decodes a
record. The record may be spelled as an object, whose unknown members are skipped and whose
members may come in any order, or as an array of the fields in order of declaration. A field
that may be missing from an object may still have to stand in the array.

Faults come in the order of the document: the wrong type of an early member wins over a repeated
or broken later one, and a missing field is noticed at the end.

## Main definitions

* `Json.Decoder`, and decoders of the basic types.
* `Json.Form`: fields with the record made of them.
* `Json.Form.required`, `Json.Form.optional`, `Json.Form.defaulted`: forms of one field.
* `Json.Form.decode`: the decoder of a form.
* `Json.oneOf`: the first of several decoders that fits.
-/

namespace Toolsmith.Json

/-- A reader of nodes. -/
abbrev Decoder (α : Type) := Node → Except Fault α

/-- A fault placed somewhere if it has no place. -/
def placed {α : Type} (mark : Option Position) : Except Fault α → Except Fault α
  | .ok a => .ok a
  | .error f => .error (f.placedAt mark)

namespace Decoder

variable {α : Type}

/-- Reads a text. -/
def text : Decoder String
  | .scalar (.string s) _ _ => .ok s
  | n => .error (n.mismatch "a string")

/-- Reads a truth value. -/
def bool : Decoder Bool
  | .scalar (.bool b) _ _ => .ok b
  | n => .error (n.mismatch "a boolean")

/-- Reads nothing but null. -/
def unit : Decoder Unit
  | .scalar .null _ _ => .ok ()
  | n => .error (n.mismatch "unit")

/-- Reads a whole number in a range, which has a name. -/
def integer (type : String) (low high : Int) : Decoder Int
  | .scalar (.number (.integer n)) _ stop =>
    if low ≤ n ∧ n ≤ high then .ok n
    else .error ⟨.invalidValue (.number (.integer n)) type, stop⟩
  | n => .error (n.mismatch type)

/-- Reads a whole number of 16 bits without sign. -/
def natural16 : Decoder Nat := fun n ↦
  (integer "u16" 0 65535 n).map (·.toNat)

/-- Reads a whole number of 32 bits. -/
def integer32 : Decoder Int :=
  integer "i32" (-2147483648) 2147483647

/-- Reads a whole number of 64 bits. -/
def integer64 : Decoder Int :=
  integer "i64" (-9223372036854775808) 9223372036854775807

/-- Reads any value. -/
def any : Decoder Value :=
  Node.value

/-- Reads null as nothing. -/
def nullable (read : Decoder α) : Decoder (Option α)
  | .scalar .null _ _ => .ok none
  | n => (read n).map some

/-- Reads items one by one. A fault without a place is put where the item's reader resumes. -/
def items (read : Decoder α) : List Item → Except Fault (List α)
  | [] => .ok []
  | .mk _ n resume :: rest => do
    let a ← placed resume (read n)
    return a :: (← items read rest)

/-- Reads a list. -/
def list (read : Decoder α) : Decoder (List α)
  | .array _ xs _ => items read xs
  | n => .error (n.mismatch "a sequence")

/-- Reads the members of a table into it. -/
def entries (read : Decoder α) : List Member → Table α → Except Fault (Table α)
  | [], t => .ok t
  | .mk key _ _ n resume :: rest, t => do
    let k ← key
    let a ← placed resume (read n)
    entries read rest (t.insert k a)
  | .broken _ f _ :: _, _ => .error f

/-- Reads a table. -/
def table (read : Decoder α) : Decoder (Table α)
  | .object _ ms _ => entries read ms []
  | n => .error (n.mismatch "a map")

end Decoder

/-- Reads by the first of several decoders that fits, once the node is known to be readable. -/
def oneOf {α : Type} (type : String) (choices : List (Decoder α)) : Decoder α := fun n ↦ do
  let _ ← n.value
  match choices.findSome? fun read ↦ (read n).toOption with
  | some a => return a
  | none => throw (.unplaced (.noVariant type))

/-! ### Variants named by a text -/

/-- Finds a variant by its name. -/
def variant {α : Type} (variants : Table α) (name : String) (mark : Option Position) :
    Except Fault α :=
  match variants.get? name with
  | some a => .ok a
  | none => .error ⟨.unknownVariant name variants.names, mark⟩

/-- The fault of a part that is no text; within a text, the text's own fault. -/
def Fault.unlessInText (f : Fault) (start : Option Position) : Fault :=
  if f.cause.isInText then f
  else match start with
    | some p => ⟨.expectedValue, some (p.plus 1)⟩
    | none => f

/-- Reads one of several named variants, spelled as its name or as an object that holds null
under the name. -/
def named {α : Type} (variants : Table α) : Decoder α
  | .scalar (.string s) _ stop => variant variants s stop
  | .object none [.mk key _ _ n _] _ => do
    let a ← variant variants (← key) none
    Decoder.unit n
    return a
  | .object none _ _ => .error (.unplaced (.invalidValue .map "map with a single key"))
  | .object _ [] stop => .error ⟨.expectedValue, stop⟩
  | .object _ (.broken found _ _ :: _) _ => .error (found.mismatch "variant identifier")
  | .object _ (.mk key keyStop _ n resume :: rest) _ => do
    let a ← variant variants (← key) keyStop
    Decoder.unit n
    match rest with
    | [] => return a
    | .broken _ ⟨.endInObject, p⟩ _ :: _ => throw ⟨.endInObject, p⟩
    | _ => throw ⟨.expectedValue, resume⟩
  | .scalar s none _ => .error (.unplaced (.invalidType s.found "string or map"))
  | .array none _ _ => .error (.unplaced (.invalidType .sequence "string or map"))
  | .scalar _ (some p) _ => .error ⟨.expectedValue, some (p.plus 1)⟩
  | .array (some p) _ _ => .error ⟨.expectedValue, some (p.plus 1)⟩
  | .unreadable start f => .error (f.unlessInText start)
  | .broken start f _ => .error (f.unlessInText start)

/-! ### Records -/

/-- What is known of a field before a record is read. -/
structure Field where
  /-- The name of the field. -/
  name : String
  /-- Whether the field may be left off the end of an array. -/
  omissible : Bool
deriving DecidableEq

/-- The fields of a record, and how it is filled in node by node. -/
structure Form (α : Type) where
  /-- The fields, in order of declaration. -/
  fields : List Field
  /-- Records that are partly filled in. -/
  Draft : Type
  /-- The record with nothing filled in. -/
  blank : Draft
  /-- Fills in the field of a name. -/
  fill : String → Node → Draft → Except Fault Draft
  /-- The record, once all that was given is filled in. -/
  finish : Draft → Except Fault α

namespace Form

variable {α β : Type}

/-- Whether the form has a field of a name. -/
def has (form : Form α) (name : String) : Bool :=
  form.fields.any (·.name = name)

instance : Applicative Form where
  pure a :=
    { fields := []
      Draft := Unit
      blank := ()
      fill := fun _ _ d ↦ .ok d
      finish := fun _ ↦ .ok a }
  seq f x :=
    let y := x ()
    { fields := f.fields ++ y.fields
      Draft := f.Draft × y.Draft
      blank := (f.blank, y.blank)
      fill := fun name n d ↦
        if f.has name then (f.fill name n d.1).map fun d' ↦ (d', d.2)
        else (y.fill name n d.2).map fun d' ↦ (d.1, d')
      finish := fun d ↦ do
        let g ← f.finish d.1
        let a ← y.finish d.2
        return g a }

/-- A field, with what its absence from an object means. -/
def single (name : String) (omissible : Bool) (absent : Except Fault α) (read : Decoder α) :
    Form α where
  fields := [⟨name, omissible⟩]
  Draft := Option α
  blank := none
  fill := fun _ n _ ↦ (read n).map some
  finish := fun d ↦
    match d with
    | some a => .ok a
    | none => absent

/-- A field that must be there. -/
def required (name : String) (read : Decoder α) : Form α :=
  single name false (.error (.unplaced (.missingField name))) read

/-- A field that may be missing or null, but has its place in an array. -/
def optional (name : String) (read : Decoder α) : Form (Option α) :=
  single name false (.ok none) (Decoder.nullable read)

/-- A field that may be missing, null, or left off the end of an array. -/
def omissible (name : String) (read : Decoder α) : Form (Option α) :=
  single name true (.ok none) (Decoder.nullable read)

/-- A field with a value of its own where it is missing or left off the end of an array. -/
def defaulted (name : String) (fallback : α) (read : Decoder α) : Form α :=
  single name true (.ok fallback) read

/-- Fills in the members of an object. The names are those filled in before. -/
def fillMembers (form : Form α) : List String → List Member → form.Draft →
    Except Fault form.Draft
  | _, [], d => .ok d
  | _, .broken _ f _ :: _, _ => .error f
  | seen, .mk key _ keyResume n resume :: rest, d => do
    let k ← key
    if form.has k then
      if seen.contains k then throw ⟨.duplicateField k, keyResume⟩
      let d ← placed resume (form.fill k n d)
      fillMembers form (k :: seen) rest d
    else
      n.skip
      fillMembers form seen rest d

/-- The fault of an array that goes on after the last field. -/
def surplus (length : Nat) : Item → Fault
  | .mk head (.broken _ f _) _ =>
    match f.cause with
    | .trailingComma | .endInList => f
    | _ => ⟨.trailingCharacters, head⟩
  | .mk none _ _ => .unplaced (.invalidLength length "fewer elements in array")
  | .mk (some p) _ _ => ⟨.trailingCharacters, some p⟩

/-- The fault of an array of a length that ends before the last field. -/
def shortage (type : String) (total length : Nat) : Fault :=
  .unplaced (.invalidLength length
    (type ++ " with " ++ toString total ++ " element" ++ (if total = 1 then "" else "s")))

/-- Fills in the items of an array of a length. The index is that of the next field. -/
def fillItems (form : Form α) (type : String) (length : Nat) :
    List Field → List Item → Nat → form.Draft → Except Fault form.Draft
  | [], [], _, d => .ok d
  | [], item :: _, _, _ => .error (surplus length item)
  | field :: fields, [], i, d =>
    if field.omissible then fillItems form type length fields [] (i + 1) d
    else .error (shortage type form.fields.length i)
  | field :: fields, .mk _ n resume :: items, i, d => do
    let d ← placed resume (form.fill field.name n d)
    fillItems form type length fields items (i + 1) d

/-- Reads the record, whose type has a name. -/
def decode (type : String) (form : Form α) : Decoder α
  | .array _ items stop => placed stop do
    form.finish
      (← form.fillItems ("struct " ++ type) items.length form.fields items 0 form.blank)
  | .object _ members stop => placed stop do
    form.finish (← form.fillMembers [] members form.blank)
  | n => .error (n.mismatch ("struct " ++ type))

/-- Reads the record from an object only. -/
def decodeObject (type : String) (form : Form α) : Decoder α
  | .array start _ _ => .error ⟨.invalidType .sequence type, start⟩
  | n => form.decode type n

end Form

end Toolsmith.Json
