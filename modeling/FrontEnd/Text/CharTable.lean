/-!
# Tables of characters

A character property is a table of ranges of code points. A range may skip: it holds its first
code point and every `step`-th one after it, so an alphabet that alternates between two cases
is a single entry.
-/

namespace FrontEnd.Text

/-- The code points `first`, `first + step`, … up to `last`. -/
structure CharRange where
  first : Nat
  last : Nat
  step : Nat

def CharRange.contains (r : CharRange) (c : Char) : Bool :=
  r.first ≤ c.toNat && c.toNat ≤ r.last && (c.toNat - r.first) % r.step == 0

abbrev CharTable := Array CharRange

def CharTable.contains (table : CharTable) (c : Char) : Bool :=
  table.any fun r => r.contains c

end FrontEnd.Text
