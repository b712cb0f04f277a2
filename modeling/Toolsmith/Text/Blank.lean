/-!
# Blank characters

Which characters count as white space, and the trimming built on them. The class is the
Unicode property `White_Space`, so it holds no-break spaces and the line and paragraph
separators, and it leaves out zero-width characters and the ASCII information separators.

## Main definitions

* `Text.isBlank`: membership in the class.
* `Text.trim`: a text without its leading and trailing blanks.
-/

namespace Toolsmith.Text

/-- A character of the Unicode property `White_Space`. -/
def isBlank (c : Char) : Bool :=
  let n := c.toNat
  (9 ≤ n && n ≤ 13) || n == 0x20 || n == 0x85 || n == 0xA0 || n == 0x1680 ||
    (0x2000 ≤ n && n ≤ 0x200A) || n == 0x2028 || n == 0x2029 || n == 0x202F ||
    n == 0x205F || n == 0x3000

/-- A list of characters without its trailing blanks. -/
def trimEndList (cs : List Char) : List Char :=
  (cs.reverse.dropWhile isBlank).reverse

/-- A list of characters without its leading and trailing blanks. -/
def trimList (cs : List Char) : List Char :=
  trimEndList (cs.dropWhile isBlank)

/-- A text without its leading and trailing blanks. -/
def trim (s : String) : String :=
  String.ofList (trimList s.toList)

end Toolsmith.Text
