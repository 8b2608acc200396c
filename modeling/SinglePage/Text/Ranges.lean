/-
Sets of characters given by ranges of code points.
-/
namespace SinglePage.Text

/-- A set of characters, as the first and the last code point of each of its ranges. -/
abbrev Ranges := List (Nat × Nat)

/-- The character lies in one of the ranges. -/
def Ranges.has (ranges : Ranges) (c : Char) : Bool :=
  ranges.any fun r => r.1 ≤ c.toNat && c.toNat ≤ r.2

end SinglePage.Text
