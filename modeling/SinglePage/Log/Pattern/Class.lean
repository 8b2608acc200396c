/-
Classes of characters between brackets. A class holds items side by side, which are characters,
ranges of them, classes by name and other classes; or it is worked out from such rows of items by
operators, from left to right.
-/
import SinglePage.Log.Pattern.Atom
import SinglePage.Log.Pattern.Depth

namespace SinglePage.Pattern

/-! ## Items -/

/-- Names of classes. -/
def classNames : List String :=
  ["alnum", "alpha", "ascii", "blank", "cntrl", "digit", "graph", "lower", "print", "punct",
    "space", "upper", "word", "xdigit"]

/-- A class by name behind its opening bracket: if it is negated, and what follows it. -/
def namedClass? : List Char → Option (Bool × List Char)
  | ':' :: cs =>
    let negated := cs.head? = some '^'
    let cs := if negated then cs.drop 1 else cs
    match cs.dropWhile (· != ':') with
    | ':' :: ']' :: rest =>
      if classNames.contains (String.ofList (cs.takeWhile (· != ':'))) then some (negated, rest)
      else none
    | _ => none
  | _ => none

/-- An atom of a class, and what follows it. -/
def classAtom (m : Mode) : List Char → Except Error (Atom × List Char)
  | [] => .error .malformed
  | '\\' :: rest => escape m rest
  | c :: rest => .ok (.literal c false, rest)

/-- The character behind a minus sign that decides if the sign makes a range. Where blanks are
passed over, so is the sign that starts a comment, but not the text of the comment. -/
def behindSign? (m : Mode) (cs : List Char) : Option Char :=
  if m.spaced then
    match cs.dropWhile Text.isBlankChar with
    | '#' :: comment => (comment.dropWhile Text.isBlankChar).head?
    | cs => cs.head?
  else cs.head?

/-- What follows an item of a class: an atom, or a range between two characters. -/
def classItem (m : Mode) (cs : List Char) : Except Error (List Char) := do
  let (first, rest) ← classAtom m cs
  let rest := m.skip rest
  let behind := behindSign? m (rest.drop 1)
  if rest.head? = some '-' ∧ behind ≠ some ']' ∧ behind ≠ some '-' then
    let (last, rest) ← classAtom m (m.skip (rest.drop 1))
    match first, last with
    | .literal a _, .literal b _ =>
      if a ≤ b ∧ m.admits true first ∧ m.admits true last then return rest else throw .malformed
    | _, _ => throw .malformed
  else if m.admits true first then return rest
  else throw .malformed

/-! ## Classes -/

/-- What has been read of a class behind its opening bracket. -/
structure Members where
  /-- There have been minus signs at most. They stand for themselves in front of a class, and so
  does a closing bracket that is the first of all. -/
  fresh : Bool := true
  /-- How deep that nests which stands in front of the last operator. -/
  left : Option Nat := none
  /-- The items behind the last operator. -/
  items : Row := {}
  deriving DecidableEq, Repr

namespace Members

/-- Takes in an item. -/
def push (c : Members) (depth : Nat) : Members :=
  { c with fresh := false, items := c.items.push depth }

/-- How deep the members nest. -/
def depth (c : Members) : Nat :=
  match c.left with
  | none => c.items.depth
  | some left => max left c.items.depth + 1

/-- Takes in an operator. -/
def operate (c : Members) : Members := ⟨false, some c.depth, {}⟩

/-- A character stands for itself here, and nowhere else in a class. -/
def isPlain (c : Members) (sign : Char) : Bool :=
  c.fresh && (sign == '-' || (sign == ']' && c.items.count == 0))

end Members

/-- What follows the start of a class: its opening bracket, and the sign that negates it. -/
def openClass (m : Mode) (cs : List Char) : Except Error (List Char) :=
  match m.skip cs with
  | '^' :: rest => if m.unicode then .ok (m.skip rest) else .error .malformed
  | rest => .ok rest

/-- The depth of a class, and what follows it; `outer` are the classes around it. Each step takes a
character at least. -/
def readClass (m : Mode) (fuel : Nat) (c : Members) (outer : List Members) (cs : List Char) :
    Except Error (Nat × List Char) :=
  match fuel, m.skip cs with
  | fuel + 1, sign :: rest =>
    if c.isPlain sign then
      if m.admits true (.literal sign false) then
        readClass m fuel { c.push 0 with fresh := sign == '-' } outer rest
      else .error .malformed
    else
      match sign, rest with
      | '[', rest =>
        match namedClass? rest with
        | some (negated, rest) =>
          if (m.unicode && m.folded) || (!m.unicode && negated) then .error .malformed
          else readClass m fuel (c.push 0) outer rest
        | none => do readClass m fuel {} (c :: outer) (← openClass m rest)
      | ']', rest =>
        match outer with
        | [] => .ok (c.depth + 1, rest)
        | around :: outer => readClass m fuel (around.push (c.depth + 1)) outer rest
      | '&', '&' :: rest | '-', '-' :: rest | '~', '~' :: rest =>
        readClass m fuel c.operate outer rest
      | sign, rest => do readClass m fuel (c.push 0) outer (← classItem m (sign :: rest))
  | _, _ => .error .malformed

end SinglePage.Pattern
