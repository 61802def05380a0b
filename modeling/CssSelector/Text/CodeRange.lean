/-
  `CodeRange` — sets of characters as tables of intervals of code points.

  The properties of the Unicode character database are given to the library as
  such tables, one module a property.
-/
import CssSelector.Text

namespace CssSelector

/-- The code points from `first` to `last`, both of them included. -/
structure CodeRange where
  first : Nat
  last : Nat

namespace CodeRange

/-- The code point of `c` lies in the interval. -/
def contains (r : CodeRange) (c : Char) : Bool :=
  r.first ≤ c.toNat && c.toNat ≤ r.last

/-- The code point of `c` lies in one of the intervals. -/
def anyContains (table : List CodeRange) (c : Char) : Bool :=
  table.any (·.contains c)

theorem anyContains_iff {table : List CodeRange} {c : Char} :
    anyContains table c = true ↔ ∃ r ∈ table, r.first ≤ c.toNat ∧ c.toNat ≤ r.last := by
  simp [anyContains, contains]

end CodeRange

end CssSelector
