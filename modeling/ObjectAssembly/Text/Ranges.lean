/-!
# Ranges — character classes as tables of code point ranges

A class of characters is a list of inclusive ranges of code points; `Ranges.has` is membership.
-/

namespace ObjectAssembly.Text

/-- Inclusive ranges of code points, in ascending order. -/
abbrev Ranges := List (Nat × Nat)

/-- A range of the table covers the character. -/
def Ranges.has (table : Ranges) (c : Char) : Bool :=
  table.any fun r => decide (r.1 ≤ c.toNat) && decide (c.toNat ≤ r.2)

end ObjectAssembly.Text
