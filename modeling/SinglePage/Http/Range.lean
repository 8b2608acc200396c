/-
Ranges of bytes. A header names ranges by their first and last byte, by their first byte alone, or
by how many bytes at the end they hold.
-/
import SinglePage.Text.Blank
import SinglePage.Text.Digits

namespace SinglePage

/-- A range of bytes, from the first to the last. -/
structure ByteRange where
  first : Nat
  last : Nat
  deriving DecidableEq, Repr

namespace ByteRange

open Text

/-- How many bytes the range has. -/
def length (r : ByteRange) : Nat := r.last - r.first + 1

/-- The bytes of data that lie in the range. -/
def slice {α : Type} (r : ByteRange) (data : List α) : List α := (data.drop r.first).take r.length

/-- A position: a number of 64 bits without zeros in front. -/
def position? (cs : List Char) : Option Nat :=
  (number? 10 cs).filter fun n => n < UInt64.size && (cs.length = 1 || cs.head? ≠ some '0')

/-- The last position in data of a size, zero if there is none. -/
def lastOf (size : Nat) : Nat := size - 1

/-- The range that an item names in data of a size. -/
def ofBounds? (first last : List Char) (size : Nat) : Option ByteRange :=
  match first, last with
  | [], last => do
    let n ← position? last
    if n = 0 ∨ size < n then none else some ⟨size - n, lastOf size⟩
  | first, [] => do return ⟨← position? first, lastOf size⟩
  | first, last => do return ⟨← position? first, min (← position? last) (lastOf size)⟩

/-- The characters without a blank in front. -/
def dropBlank : List Char → List Char
  | c :: rest => if isBlankChar c then rest else c :: rest
  | [] => []

/-- The range that an item of the header names. One blank may stand in front of it. -/
def item? (cs : List Char) (size : Nat) : Option ByteRange :=
  match (dropBlank cs).splitOn '-' with
  | [first, last] => ofBounds? first last size
  | _ => none

/-- Two ranges have a byte in common. -/
def overlaps (a b : ByteRange) : Bool := a.first ≤ b.last && b.first ≤ a.last

/-- No range is reversed, and no two have a byte in common. -/
def areDisjoint : List ByteRange → Bool
  | [] => true
  | r :: rest => r.first ≤ r.last && !rest.any r.overlaps && areDisjoint rest

/-- The ranges that a header names in data of a size. -/
def parse? (header : String) (size : Nat) : Option (List ByteRange) := do
  let cs := header.toList
  if !"bytes=".toList.isPrefixOf cs ∨ ((cs.drop 6).head?.any isBlankChar) then none
  let ranges ← ((cs.drop 6).splitOn ',').mapM fun item => item? item size
  if areDisjoint ranges then some ranges else none

end ByteRange

end SinglePage
