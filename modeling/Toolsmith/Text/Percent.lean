/-!
# Percent encoding

A character that may not stand for itself is written byte by byte, each byte of its UTF-8 form
as a percent sign and two hexadecimal digits. Which characters stand for themselves depends on
the place. Forms write a space as a plus sign.

## Main definitions

* `Text.percentEncode`: the encoding that keeps the characters of a class.
* `Text.encodeComponent`: the encoding of one URL component.
* `Text.encodeForm`: the encoding of one name or value of a form.
* `Text.percentDecode`: the bytes that an encoded text stands for.
-/

namespace Toolsmith.Text

/-- A hexadecimal digit in upper case. -/
def upperHexDigit (n : Nat) : Char :=
  (Nat.digitChar n).toUpper

/-- A byte written as a percent sign and two digits. -/
def percentByte (b : UInt8) : List Char :=
  ['%', upperHexDigit (b.toNat / 16), upperHexDigit (b.toNat % 16)]

/-- A character written byte by byte. -/
def percentChar (c : Char) : List Char :=
  (String.utf8EncodeChar c).flatMap percentByte

/-- The text with every character written byte by byte that is not in a class. -/
def percentEncode (keep : Char → Bool) (cs : List Char) : List Char :=
  cs.flatMap fun c ↦ if keep c then [c] else percentChar c

/-- Whether a character stands for itself in a URL component. -/
def isUnreserved (c : Char) : Bool :=
  c.isAlphanum || c = '-' || c = '.' || c = '_' || c = '~'

/-- The encoding of one URL component. -/
def encodeComponent (cs : List Char) : List Char :=
  percentEncode isUnreserved cs

/-- Whether a character stands for itself in a form. -/
def isFormPlain (c : Char) : Bool :=
  c.isAlphanum || c = '*' || c = '-' || c = '.' || c = '_'

/-- One character of a name or value of a form. -/
def encodeFormChar (c : Char) : List Char :=
  if isFormPlain c then [c] else if c = ' ' then ['+'] else percentChar c

/-- The encoding of one name or value of a form. -/
def encodeForm (cs : List Char) : List Char :=
  cs.flatMap encodeFormChar

/-- The value of a hexadecimal digit. -/
def hexValue? (c : Char) : Option Nat :=
  if '0' ≤ c ∧ c ≤ '9' then some (c.toNat - '0'.toNat)
  else if 'a' ≤ c ∧ c ≤ 'f' then some (c.toNat - 'a'.toNat + 10)
  else if 'A' ≤ c ∧ c ≤ 'F' then some (c.toNat - 'A'.toNat + 10)
  else none

/-- The byte written by two hexadecimal digits. -/
def hexByte? (a b : Char) : Option UInt8 := do
  let a ← hexValue? a
  let b ← hexValue? b
  return UInt8.ofNat (a * 16 + b)

/-- The bytes that an encoded text stands for. A percent sign without two digits after it stands
for itself. -/
def percentDecode : List Char → List UInt8
  | [] => []
  | '%' :: a :: b :: rest =>
    match hexByte? a b with
    | some byte => byte :: percentDecode rest
    | none => 0x25 :: percentDecode (a :: b :: rest)
  | c :: rest => String.utf8EncodeChar c ++ percentDecode rest

end Toolsmith.Text
