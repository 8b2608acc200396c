/-
Numbers written in digits of a base up to sixteen.
-/
namespace SinglePage.Text

/-- The value of a digit below `base`. -/
def digit? (base : Nat) (c : Char) : Option Nat :=
  let value :=
    if '0' ≤ c ∧ c ≤ '9' then c.toNat - '0'.toNat
    else if 'a' ≤ c ∧ c ≤ 'f' then c.toNat - 'a'.toNat + 10
    else if 'A' ≤ c ∧ c ≤ 'F' then c.toNat - 'A'.toNat + 10
    else base
  if value < base then some value else none

/-- The digit of a number below sixteen, in lower case. -/
def lowerHexDigit (n : Nat) : Char :=
  if n < 10 then Char.ofNat ('0'.toNat + n) else Char.ofNat ('a'.toNat + (n - 10))

/-- The digit of a number below sixteen, in upper case. -/
def upperHexDigit (n : Nat) : Char :=
  if n < 10 then Char.ofNat ('0'.toNat + n) else Char.ofNat ('A'.toNat + (n - 10))

theorem digit?_upperHexDigit {n : Nat} (h : n < 16) : digit? 16 (upperHexDigit n) = some n := by
  have all : ∀ k ∈ List.range 16, digit? 16 (upperHexDigit k) = some k := by decide
  exact all n (List.mem_range.2 h)

/-- The character is a digit below `base`. -/
def isDigit (base : Nat) (c : Char) : Bool := (digit? base c).isSome

/-- The number that digits stand for; at least one digit, and nothing else. -/
def number? (base : Nat) (cs : List Char) : Option Nat :=
  if cs = [] then none
  else cs.foldlM (fun n c => (digit? base c).map (base * n + ·)) 0

/-- The digits that a text starts with, and what follows them. -/
def spanDigits (base : Nat) (cs : List Char) : List Char × List Char :=
  (cs.takeWhile (isDigit base), cs.dropWhile (isDigit base))

/-- A number with zeros in front of it, up to `width` digits. -/
def padded (width n : Nat) : String :=
  let digits := Nat.toDigits 10 n
  String.ofList (List.replicate (width - digits.length) '0' ++ digits)

end SinglePage.Text
