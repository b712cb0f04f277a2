import Toolsmith.Text.Unprinted

/-!
# Quoted text

A text between double quotes, for messages. Quotes, backslashes, line breaks, tabs and
characters that leave no mark of their own are written with a backslash, so the message shows
what is there.

## Main definitions

* `Text.quote`: the quoted text.
-/

namespace Toolsmith.Text

/-- One character of a quoted text. -/
def quoteChar (c : Char) : List Char :=
  if c = '"' then ['\\', '"']
  else if c = '\\' then ['\\', '\\']
  else if c = '\n' then ['\\', 'n']
  else if c = '\r' then ['\\', 'r']
  else if c = '\t' then ['\\', 't']
  else if c = Char.ofNat 0 then ['\\', '0']
  else if isUnprinted c then
    ['\\', 'u', '{'] ++ Nat.toDigits 16 c.toNat ++ ['}']
  else [c]

/-- A text between double quotes. -/
def quote (s : String) : String :=
  String.ofList ('"' :: s.toList.flatMap quoteChar ++ ['"'])

end Toolsmith.Text
