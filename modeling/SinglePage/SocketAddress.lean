/-
Socket addresses: an address of four bytes or of eight groups, and a port. `parse?` reads an
address; `text` writes it in one form only, with the longest run of zero groups left out.
-/
import SinglePage.Text.Digits

namespace SinglePage

/-- An address and a port. Eight groups come with a scope, zero if there is none. -/
inductive SocketAddress where
  | v4 (a b c d : UInt8) (port : UInt16)
  | v6 (groups : List UInt16) (scope : UInt32) (port : UInt16)
  deriving DecidableEq, Repr

namespace SocketAddress

open Text

/-! ## Reading -/

/-- A reader takes a value off the front of a text, or refuses it. -/
abbrev Reader (α : Type) := List Char → Option (α × List Char)

/-- Takes a given character. -/
def readChar (c : Char) : Reader Unit
  | d :: rest => if d = c then some ((), rest) else none
  | [] => none

/-- Takes all digits in front, where they are at most `width` digits of a number below `bound`. -/
def readNumber (base width bound : Nat) : Reader Nat := fun cs => do
  let (digits, rest) := spanDigits base cs
  let n ← number? base digits
  if digits.length ≤ width ∧ n < bound then some (n, rest) else none

/-- Takes a byte in decimal, without zeros in front. -/
def readByte : Reader UInt8 := fun cs => do
  let (n, rest) ← readNumber 10 3 256 cs
  if cs.head? = some '0' ∧ cs.length ≠ rest.length + 1 then none else some (UInt8.ofNat n, rest)

/-- Takes four bytes with dots between them. -/
def readV4 : Reader (UInt8 × UInt8 × UInt8 × UInt8) := fun cs => do
  let (a, cs) ← readByte cs
  let ((), cs) ← readChar '.' cs
  let (b, cs) ← readByte cs
  let ((), cs) ← readChar '.' cs
  let (c, cs) ← readByte cs
  let ((), cs) ← readChar '.' cs
  let (d, cs) ← readByte cs
  return ((a, b, c, d), cs)

/-- Takes a colon, unless this is the first group. -/
def readSeparator (first : Bool) : Reader Unit := fun cs =>
  if first then some ((), cs) else readChar ':' cs

/-- Takes up to `room` groups, of which the last two may be written as four bytes, and says whether
they are. -/
def readGroups (first : Bool) : Nat → List Char → (List UInt16 × Bool) × List Char
  | 0, cs => (([], false), cs)
  | room + 1, cs =>
    match (readSeparator first cs).bind fun r => if room = 0 then none else readV4 r.2 with
    | some ((a, b, c, d), rest) =>
      (([a.toUInt16 * 256 + b.toUInt16, c.toUInt16 * 256 + d.toUInt16], true), rest)
    | none =>
      match (readSeparator first cs).bind fun r => readNumber 16 4 65536 r.2 with
      | some (n, rest) =>
        let ((groups, bytes), rest) := readGroups false room rest
        ((UInt16.ofNat n :: groups, bytes), rest)
      | none => (([], false), cs)

/-- Takes eight groups. A double colon stands for all the groups that are missing, one at least. -/
def readV6 : Reader (List UInt16) := fun cs => do
  let ((head, bytes), cs) := readGroups true 8 cs
  if head.length = 8 then return (head, cs)
  if bytes then none
  let ((), cs) ← readChar ':' cs
  let ((), cs) ← readChar ':' cs
  let ((tail, _), cs) := readGroups true (7 - head.length) cs
  return (head ++ List.replicate (8 - head.length - tail.length) 0 ++ tail, cs)

/-- Takes a colon and a port. -/
def readPort : Reader UInt16 := fun cs => do
  let ((), cs) ← readChar ':' cs
  let (n, cs) ← readNumber 10 cs.length 65536 cs
  return (UInt16.ofNat n, cs)

/-- Takes a percent sign and a scope. -/
def readScope : Reader UInt32 := fun cs => do
  let ((), cs) ← readChar '%' cs
  let (n, cs) ← readNumber 10 cs.length UInt32.size cs
  return (UInt32.ofNat n, cs)

/-- Takes four bytes and a port. -/
def readSocketV4 : Reader SocketAddress := fun cs => do
  let ((a, b, c, d), cs) ← readV4 cs
  let (port, cs) ← readPort cs
  return (.v4 a b c d port, cs)

/-- Takes eight groups and perhaps a scope in brackets, and a port. -/
def readSocketV6 : Reader SocketAddress := fun cs => do
  let ((), cs) ← readChar '[' cs
  let (groups, cs) ← readV6 cs
  let (scope, cs) := (readScope cs).getD (0, cs)
  let ((), cs) ← readChar ']' cs
  let (port, cs) ← readPort cs
  return (.v6 groups scope port, cs)

/-- The socket address that a whole text spells. -/
def parse? (text : String) : Option SocketAddress :=
  match (readSocketV4 text.toList).orElse fun _ => readSocketV6 text.toList with
  | some (address, []) => some address
  | _ => none

/-! ## Writing -/

/-- The longest run of zeros: where it starts, and how long it is. Of runs of one length the first
counts. -/
def longestZeros : List UInt16 → Nat × Nat
  | [] => (0, 0)
  | g :: rest =>
    let here := ((g :: rest).takeWhile (· == 0)).length
    let (start, length) := longestZeros rest
    if length ≤ here then (0, here) else (start + 1, length)

/-- A group in hexadecimal digits. -/
def groupText (g : UInt16) : List Char := Nat.toDigits 16 g.toNat

/-- Groups with colons between them. -/
def groupsText (groups : List UInt16) : List Char := [':'].intercalate (groups.map groupText)

/-- Four bytes with dots between them. -/
def bytesText (bytes : List Nat) : List Char := ['.'].intercalate (bytes.map (Nat.toDigits 10))

/-- Eight groups. Those that hold four bytes of the older form are written as such. -/
def v6Text : List UInt16 → List Char
  | [0, 0, 0, 0, 0, 0xffff, g, h] =>
    "::ffff:".toList ++ bytesText [g.toNat / 256, g.toNat % 256, h.toNat / 256, h.toNat % 256]
  | groups =>
    let (start, length) := longestZeros groups
    if 1 < length then
      groupsText (groups.take start) ++ [':', ':'] ++ groupsText (groups.drop (start + length))
    else groupsText groups

/-- The text of an address. -/
def text : SocketAddress → String
  | .v4 a b c d port =>
    String.ofList (bytesText [a.toNat, b.toNat, c.toNat, d.toNat]) ++ ":" ++ toString port.toNat
  | .v6 groups scope port =>
    "[" ++ String.ofList (v6Text groups) ++
      (if scope = 0 then "" else "%" ++ toString scope.toNat) ++ "]:" ++ toString port.toNat

end SocketAddress

end SinglePage
