/-
Modes in which parts of a pattern are read, and atoms: what stands for one character, or for a place
between two. There are no tables of characters to patterns, so classes of characters by property,
and characters of either case, need the flags that make a pattern one of bytes.
-/
import SinglePage.Text.Blank
import SinglePage.Text.Digits

namespace SinglePage.Pattern

/-- Why a pattern cannot be used. -/
inductive Error where
  | malformed
  /-- The edges of words cannot be found among all characters. -/
  | wordEdge
  deriving DecidableEq, Repr

/-- The text of an error. -/
def Error.message : Error → String
  | .malformed => "error building NFA"
  | .wordEdge => "unsupported regex feature for DFAs: cannot build DFAs for regexes with " ++
      "Unicode word boundaries; switch to ASCII word boundaries, or heuristically enable " ++
      "Unicode word boundaries or use a different regex engine"

/-! ## Modes -/

/-- How a part of a pattern is read. -/
structure Mode where
  /-- It is about characters, and not about bytes. -/
  unicode : Bool := true
  /-- Letters stand for both cases. -/
  folded : Bool := false
  /-- Blanks and comments are passed over. -/
  spaced : Bool := false
  deriving DecidableEq, Repr

namespace Mode

/-- The text behind blanks and comments, which end with their line. -/
def afterGap : Bool → List Char → List Char
  | _, [] => []
  | true, c :: cs => afterGap (c != '\n') cs
  | false, c :: cs =>
    if Text.isBlankChar c then afterGap false cs
    else if c = '#' then afterGap true cs
    else c :: cs

/-- The text behind what is passed over. -/
def skip (m : Mode) (cs : List Char) : List Char := if m.spaced then afterGap false cs else cs

/-- The mode after a flag is set or unset. -/
def withFlag (m : Mode) (value : Bool) : Char → Mode
  | 'u' => { m with unicode := value }
  | 'i' => { m with folded := value }
  | 'x' => { m with spaced := value }
  | _ => m

/-- The mode after flags. Those behind a minus sign are unset. -/
def withFlags (m : Mode) (flags : List Char) : Mode :=
  let set := flags.takeWhile (· != '-')
  let unset := flags.dropWhile (· != '-')
  unset.foldl (·.withFlag false ·) (set.foldl (·.withFlag true ·) m)

end Mode

/-- Flags, each once, with at most one minus sign, which is not the last of them. -/
def areFlags (flags : List Char) : Bool :=
  flags.all "imsUuRx-".toList.contains && flags.Nodup && flags.getLast? != some '-'

/-! ## Atoms -/

/-- What stands for one character, or for a place between two. -/
inductive Atom where
  /-- A character; `byte` says that it is given by the number of a byte. -/
  | literal (c : Char) (byte : Bool)
  /-- A digit, a blank or a character of words, or any other character. -/
  | kind (negated : Bool)
  | wordEdge
  | textEdge
  deriving DecidableEq, Repr

/-- Characters with a meaning of their own. -/
def isMeta (c : Char) : Bool := "\\.+*?()|[]\x7b\x7d^$#&-~".toList.contains c

/-- Characters that a backslash makes stand for themselves. -/
def isEscapable (c : Char) : Bool :=
  isMeta c || (c.val < 0x80 && !c.isAlphanum && c != '<' && c != '>')

/-- The number in so many hexadecimal digits, and what follows it. -/
def number (m : Mode) : Nat → Nat → List Char → Except Error (Nat × List Char)
  | 0, value, cs => .ok (value, cs)
  | n + 1, value, cs =>
    match m.skip cs with
    | [] => .error .malformed
    | c :: rest =>
      match Text.digit? 16 c with
      | some d => number m n (16 * value + d) rest
      | none => .error .malformed

/-- A character by its number in so many hexadecimal digits. -/
def numbered (m : Mode) (digits : Nat) (cs : List Char) : Except Error (Atom × List Char) := do
  let (n, rest) ← number m digits 0 cs
  if n.isValidChar then return (.literal (Char.ofNat n) (digits = 2), rest)
  else throw .malformed

/-- Letters that stand for control characters behind a backslash. -/
def controls : List (Char × Char) :=
  [('a', '\x07'), ('f', '\x0c'), ('t', '\t'), ('n', '\n'), ('r', '\r'), ('v', '\x0b')]

/-- The atom behind a backslash, and what follows it. -/
def escape (m : Mode) : List Char → Except Error (Atom × List Char)
  | [] => .error .malformed
  | c :: rest =>
    if c = 'x' then numbered m 2 rest
    else if c = 'u' then numbered m 4 rest
    else if c = 'U' then numbered m 8 rest
    else if "dsw".toList.contains c then .ok (.kind false, rest)
    else if "DSW".toList.contains c then .ok (.kind true, rest)
    else if "bB<>".toList.contains c then .ok (.wordEdge, rest)
    else if "Az".toList.contains c then .ok (.textEdge, rest)
    else if isEscapable c then .ok (.literal c false, rest)
    else
      match controls.lookup c with
      | some control => .ok (.literal control false, rest)
      | none => .error .malformed

/-- An atom can be used, inside a class or outside. -/
def Mode.admits (m : Mode) (inClass : Bool) : Atom → Bool
  | .literal c byte => if m.unicode then !m.folded else c.val < 0x80 || (!byte && !inClass)
  | .kind negated => !m.unicode && !negated
  | .wordEdge | .textEdge => !inClass

end SinglePage.Pattern
