/-
The shortest decimal of a floating-point number: of the decimals that round to it, those with the
fewest digits, and of these the nearest, or the larger of two that are as near. It is found on one
decimal grid after another, from the power of ten above the number to seventeen digits, among the
neighbours of the number on the grid, in exact arithmetic.
-/
namespace SinglePage.Decimal

/-! ## Decimals -/

/-- The number `coefficient · 10 ^ exponent`. -/
structure Scaled where
  coefficient : Nat
  exponent : Int
  deriving DecidableEq, Repr

/-- All digits of a decimal, with a point only where a fraction follows. -/
def Scaled.positional (d : Scaled) : String :=
  let digits := Nat.toDigits 10 d.coefficient
  if 0 ≤ d.exponent then
    String.ofList (digits ++ List.replicate (if d.coefficient = 0 then 0 else d.exponent.toNat) '0')
  else
    let places := (-d.exponent).toNat
    let digits := List.replicate (places + 1 - digits.length) '0' ++ digits
    let whole := digits.length - places
    String.ofList (digits.take whole ++ '.' :: digits.drop whole)

/-! ## Floating-point numbers -/

/-- The number `mantissa · 2 ^ exponent`, which is not zero. `narrow` says that the next number
below is half as far away as the next number above. -/
structure Binary where
  mantissa : Nat
  exponent : Int
  narrow : Bool

/-- The size of the finite number with this representation. -/
def Binary.ofBits (bits : UInt64) : Binary :=
  let stored := (bits >>> 52 &&& 0x7ff).toNat
  let fraction := (bits &&& 0xfffffffffffff).toNat
  if stored = 0 then ⟨fraction, -1074, false⟩
  else ⟨0x10000000000000 + fraction, (stored : Int) - 1075, fraction = 0 && stored > 1⟩

/-- Numerator and denominator of `n · base ^ e`. -/
def ratio (n base : Nat) (e : Int) : Nat × Nat := (n * base.pow e.toNat, base.pow (-e).toNat)

/-- The first ratio is less than the second. -/
def ratioLt (a b : Nat × Nat) : Bool := a.1 * b.2 < b.1 * a.2

/-- A decimal rounds to this number: it lies between the midpoints to the next numbers, or on one of
them if the mantissa is even. -/
def Binary.rounds (x : Binary) (d : Scaled) : Bool :=
  let value := ratio d.coefficient 10 d.exponent
  let low := ratio (4 * x.mantissa - if x.narrow then 1 else 2) 2 (x.exponent - 2)
  let high := ratio (4 * x.mantissa + 2) 2 (x.exponent - 2)
  if x.mantissa % 2 = 0 then !ratioLt value low && !ratioLt high value
  else ratioLt low value && ratioLt value high

/-- The largest power of ten that is not above a positive ratio. -/
def magnitude (r : Nat × Nat) : Int :=
  let guess : Int := (Nat.toDigits 10 r.1).length - (Nat.toDigits 10 r.2).length
  if ratioLt r (ratio 1 10 guess) then guess - 1 else guess

/-- The decimals next to a number on the grid `10 ^ e`, the nearer one first, or the larger one
where the number lies halfway between them. -/
def neighbours (r : Nat × Nat) (e : Int) : List Scaled :=
  let unit := ratio 1 10 e
  let scaled := r.1 * unit.2
  let below := scaled / (r.2 * unit.1)
  let rest := scaled % (r.2 * unit.1)
  if 2 * rest < r.2 * unit.1 then [⟨below, e⟩, ⟨below + 1, e⟩] else [⟨below + 1, e⟩, ⟨below, e⟩]

/-- The shortest decimal that rounds to this number. -/
def Binary.shortest (x : Binary) : Scaled :=
  let value := ratio x.mantissa 2 x.exponent
  let top := magnitude value
  let grids := (List.range 18).map fun k => top + 1 - Int.ofNat k
  let found := grids.findSome? fun e => (neighbours value e).find? x.rounds
  found.getD ⟨x.mantissa, 0⟩

/-- The shortest decimal of a floating-point number, written in full. -/
def shortest (x : Float) : String :=
  let bits := x.toBits
  let sign := if bits >>> 63 = 1 then "-" else ""
  if x.isNaN then "NaN"
  else if x.isInf then sign ++ "inf"
  else if bits <<< 1 = 0 then sign ++ "0"
  else sign ++ (Binary.ofBits bits).shortest.positional

end SinglePage.Decimal
