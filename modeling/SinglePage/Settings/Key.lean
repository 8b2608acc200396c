/-
Keys of settings. A key is a name followed by fields and indices of what the name holds, as in
"hosts[0].port".
-/
import SinglePage.Text.Digits

namespace SinglePage.Settings

/-- A step into a table or a list. -/
inductive Step where
  | field (name : String)
  | index (i : Int)
  deriving DecidableEq, Repr

/-- A name and the steps below it. -/
structure Key where
  name : String
  steps : List Step
  deriving DecidableEq, Repr

namespace Key

open Text

/-- Characters of names and fields. -/
def isNameChar (c : Char) : Bool := c.isAlphanum || c == ' ' || c == '_' || c == '-'

/-- Characters that may stand around an index. -/
def isGap (c : Char) : Bool := c == ' ' || c == '\t'

/-- The index that a text spells: a number of 64 bits, perhaps negative. -/
def index? (cs : List Char) : Option Int :=
  match cs with
  | '-' :: digits => ((number? 10 digits).filter (· ≤ UInt64.size / 2)).map fun n => -(n : Int)
  | digits => ((number? 10 digits).filter (· < UInt64.size / 2)).map fun n => (n : Int)

/-- An index without the gaps around it. -/
def strip (cs : List Char) : List Char :=
  ((cs.dropWhile isGap).reverse.dropWhile isGap).reverse

/-- The steps that a text spells, which is read in at most `fuel` steps. -/
def steps? (fuel : Nat) (cs : List Char) : Option (List Step) :=
  match fuel, cs with
  | _, [] => some []
  | fuel + 1, '.' :: rest =>
    let name := rest.takeWhile isNameChar
    if name = [] then none
    else (steps? fuel (rest.dropWhile isNameChar)).map (.field (String.ofList name) :: ·)
  | fuel + 1, '[' :: rest =>
    match index? (strip (rest.takeWhile (· != ']'))), rest.dropWhile (· != ']') with
    | some i, _ :: rest => (steps? fuel rest).map (.index i :: ·)
    | _, _ => none
  | _, _ => none

/-- The key that a text spells. -/
def parse? (text : String) : Option Key :=
  let name := text.toList.takeWhile isNameChar
  if name = [] then none
  else (steps? text.length (text.toList.dropWhile isNameChar)).map (⟨String.ofList name, ·⟩)

end Key

end SinglePage.Settings
