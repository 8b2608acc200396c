/-
Values of settings, and what a name holds after values have been put at it and below it. Main
statement: a name that is given a value holds it, and no other name changes (`get?_set`).
-/
import SinglePage.Decimal.Shortest
import SinglePage.Entries
import SinglePage.Settings.Key
import SinglePage.Text.LowerCase

namespace SinglePage.Settings

open Text

/-! ## Values -/

/-- A value. A list tells how many items it has, and holds those that were put into it. -/
inductive Value where
  | text (s : String)
  | integer (n : Int)
  | number (x : Float)
  | boolean (b : Bool)
  | absent
  | list (length : Nat) (items : List (Nat × Value))
  | table (fields : List (String × Value))

namespace Value

/-- The text of a value that is not composite. -/
def text? : Value → Option String
  | .text s => some s
  | .integer n => some (toString n)
  | .number x => some (Decimal.shortest x)
  | .boolean b => some (if b then "true" else "false")
  | _ => none

/-- What a value is called in a message. -/
def kind : Value → String
  | .text _ => "string"
  | .integer _ => "integer"
  | .number _ => "floating point"
  | .boolean _ => "boolean"
  | .absent => "unit value"
  | .list _ _ => "sequence"
  | .table _ => "map"

/-- The list of these items. -/
def ofItems (items : List Value) : Value :=
  .list items.length (items.zipIdx.map fun i => (i.2, i.1))

/-! ## Changes -/

/-- The fields of a table; what is no table has none. -/
def fields : Option Value → List (String × Value)
  | some (.table fields) => fields
  | _ => []

/-- The length and the items of a list; what is no list has none. -/
def items : Option Value → Nat × List (Nat × Value)
  | some (.list length items) => (length, items)
  | _ => (0, [])

mutual

/-- What stands in the place of `old` once `value` is put there. The fields of a table are put one
by one, so that the others stay. -/
def merge (old : Option Value) : Value → Value
  | .table [] => old.getD (.table [])
  | .table (f :: rest) => .table (mergeFields (fields old) (f :: rest))
  | value => value

/-- The fields `old` once others are put among them. -/
def mergeFields (old : List (String × Value)) : List (String × Value) → List (String × Value)
  | [] => old
  | (name, value) :: rest =>
    let name := lowerCase name
    mergeFields (setEntry name (merge (old.lookup name) value) old) rest

end

/-- No list is as long as this. -/
def maxLength : Nat := 0x100000000000000

/-- The place that an index names in a list. A negative one counts from the end. -/
def place? (length : Nat) : Int → Option Nat
  | .ofNat i => if i < maxLength then some i else none
  | .negSucc i => if i < length then some (length - (i + 1)) else none

/-- What stands in the place of `old` once `value` is put at these steps below it; nothing if an
index names no place. A step makes a table or a list of what is none. -/
def put (value : Value) (old : Option Value) : List Step → Option Value
  | [] => some (merge old value)
  | .field name :: steps => do
    let name := lowerCase name
    let field ← put value ((fields old).lookup name) steps
    return .table (setEntry name field (fields old))
  | .index i :: steps => do
    let (length, items) := items old
    let place ← place? length i
    let item ← if steps = [] then some value else put value (items.lookup place) steps
    return .list (max length (place + 1)) (setEntry place item items)

end Value

/-! ## Stores -/

/-- The values that names hold, each name once. -/
abbrev Store := List (String × Value)

namespace Store

/-- The value of a name. -/
def get? (s : Store) (name : String) : Option Value := s.lookup name

/-- Gives a name a value. -/
def set (s : Store) (name : String) (value : Value) : Store := setEntry name value s

/-- Puts a value at a key, whose names count in lower case; nothing if an index names no place. -/
def assign (s : Store) (key : Key) (value : Value) : Option Store := do
  let name := lowerCase key.name
  return s.set name (← Value.put value (s.get? name) key.steps)

/-- A name that is given a value holds it, and no other name changes. -/
theorem get?_set (s : Store) (name other : String) (value : Value) :
    (s.set name value).get? other = if other = name then some value else s.get? other :=
  lookup_setEntry s name other value

end Store

end SinglePage.Settings
