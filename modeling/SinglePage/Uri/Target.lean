/-
The path and query of a request's URI. A text is read by `scan`, which leaves out what follows a
'#', and a target is written by `render`.
-/
namespace SinglePage

/-- Why a text is no URI. -/
inductive UriError where
  | empty
  | tooLong
  | invalidCharacter
  | invalidFormat
  | invalidAuthority
  | schemeTooLong
  deriving DecidableEq, Repr

/-- The text a client is told. -/
def UriError.message : UriError → String
  | .empty => "empty string"
  | .tooLong => "uri too long"
  | .invalidCharacter => "invalid uri character"
  | .invalidFormat => "invalid format"
  | .invalidAuthority => "invalid authority"
  | .schemeTooLong => "scheme too long"

/-- A path, still percent-encoded, and a query, which may be empty. -/
structure Target where
  path : String
  query : Option String
  deriving DecidableEq, Repr

namespace Target

/-- The most bytes that a URI, or a path and query, may have. -/
def maxSize : Nat := 65534

/-- Characters that a path may hold, other than '?' and '#', which end it. All that are not ASCII are
among them, but DEL, the last one of ASCII, is not. -/
def isPathChar (c : Char) : Bool :=
  c.val ≥ 0x80 || c.isAlphanum || "!\"$%&'()*+,-./:;=@[\\]^_{|}~".toList.contains c

/-- Characters that a query may hold, other than '#', which ends it. DEL is not among them, either. -/
def isQueryChar (c : Char) : Bool :=
  c.val ≥ 0x80 || c.isAlphanum || "!$%&'()*+,-./:;=?@[\\]^_\x60{|}~".toList.contains c

/-- The characters up to the first '#'. -/
def beforeFragment (cs : List Char) : List Char := cs.takeWhile (· != '#')

/-- The characters up to the first '?'. -/
def pathChars (cs : List Char) : List Char := cs.takeWhile (· != '?')

/-- The characters after the first '?'. -/
def queryChars? (cs : List Char) : Option (List Char) :=
  match cs.dropWhile (· != '?') with
  | [] => none
  | _ :: query => some query

/-- Reads a path and a query, leaving out what follows a '#'. -/
def scan (cs : List Char) : Except UriError Target :=
  let cs := beforeFragment cs
  let path := pathChars cs
  let query := queryChars? cs
  if path.all isPathChar && query.all (·.all isQueryChar) then
    .ok ⟨String.ofList path, query.map String.ofList⟩
  else .error .invalidCharacter

/-- A path and query may start with '/', '?' or '#', or be an asterisk alone. -/
def startsTarget : List Char → Bool
  | ['*'] => true
  | c :: _ => c == '/' || c == '?' || c == '#'
  | [] => false

/-- The target that a text spells, if it spells one. -/
def parse? (text : String) : Option Target :=
  if startsTarget text.toList && text.utf8ByteSize ≤ maxSize then (scan text.toList).toOption
  else none

/-- A path followed by a query, if there is one. -/
def render (path : String) (query : Option String) : String :=
  match query with
  | some q => path ++ "?" ++ q
  | none => path

end Target

end SinglePage
