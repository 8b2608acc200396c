/-
How deep a pattern nests. What holds parts is one deeper than the deepest of them; parts side by
side are, too, but a part alone in its row is not.
-/
namespace SinglePage.Pattern

/-- How deep a pattern may nest. -/
def depthLimit : Nat := 250

/-- How deep parts side by side nest, the last of which may change yet. -/
structure Row where
  count : Nat := 0
  /-- The depth of the deepest part in front of the last. -/
  before : Nat := 0
  last : Nat := 0
  deriving DecidableEq, Repr

namespace Row

/-- The row with a part of this depth behind it. -/
def push (r : Row) (depth : Nat) : Row := ⟨r.count + 1, max r.before r.last, depth⟩

/-- The row whose last part is put into another part. -/
def wrapLast (r : Row) : Row := { r with last := r.last + 1 }

/-- How deep the row nests. -/
def depth (r : Row) : Nat := max r.before r.last + if 2 ≤ r.count then 1 else 0

end Row

end SinglePage.Pattern
