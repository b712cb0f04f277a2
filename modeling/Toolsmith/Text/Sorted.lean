/-!
# Sorted texts

A set of texts is listed in increasing order, each text once. The order is that of code points,
which is also the order of the bytes.

## Main definitions

* `Text.sortDistinct`: the texts of a list, in order and each once.
-/

namespace Toolsmith.Text

/-- A text put into a list of texts in order, unless it is there. -/
def insertSorted (s : String) : List String → List String
  | [] => [s]
  | t :: ts =>
    if s < t then s :: t :: ts
    else if s = t then t :: ts
    else t :: insertSorted s ts

/-- The texts of a list, in order and each once. -/
def sortDistinct (texts : List String) : List String :=
  texts.foldr insertSorted []

end Toolsmith.Text
