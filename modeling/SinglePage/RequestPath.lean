/-
Request paths. A request names a file by a percent-encoded path that may hold empty segments and dot
segments; `canonicalize` reads it into the one canonical path it stands for, and `encode` writes a
path in the form in which it is requested. A canonical path is '/' followed by segments joined by
'/', none of them empty, "." or "..", and so never leaves the directory it starts from.
-/
import SinglePage.Percent

namespace SinglePage

/-- Why a request path has no canonical form. -/
inductive PathError where
  | invalidEscape
  | invalidUtf8
  | nulByte
  deriving DecidableEq, Repr

/-- The text a client is told. -/
def PathError.message : PathError → String
  | .invalidEscape => "invalid percent-encoding in request path"
  | .invalidUtf8 => "request path is not valid UTF-8"
  | .nulByte => "request path contains a NUL byte"

namespace RequestPath

/-! ## Segments -/

/-- A segment of a path, without the slashes around it. -/
abbrev Segment := List Char

/-- The segments between the slashes of a text. -/
def segments (path : List Char) : List Segment := path.splitOn '/'

/-- Takes one segment into the stack of those that lead to it, the innermost first: ".." leaves the
innermost one, and stays where there is none. -/
def enter (stack : List Segment) (segment : Segment) : List Segment :=
  if segment = [] ∨ segment = ['.'] then stack
  else if segment = ['.', '.'] then stack.tail
  else segment :: stack

/-- The ordinary segments that a sequence of segments leads through. -/
def resolve (path : List Segment) : List Segment := (path.foldl enter []).reverse

/-- The absolute path of these segments. -/
def join (path : List Segment) : String := String.ofList ('/' :: ['/'].intercalate path)

/-- A segment of a canonical path: neither empty nor a dot segment, and free of '/' and NUL. -/
def IsOrdinary (segment : Segment) : Prop :=
  segment ≠ [] ∧ segment ≠ ['.'] ∧ segment ≠ ['.', '.'] ∧ '/' ∉ segment ∧ '\x00' ∉ segment

/-- The paths that `canonicalize` answers with. -/
def IsCanonical (path : String) : Prop :=
  ∃ names : List Segment, (∀ name ∈ names, IsOrdinary name) ∧ path = join names

/-! ## Reading and writing -/

/-- The text that a percent-encoded path spells. -/
def decode (raw : String) : Except PathError String :=
  if Percent.wellFormed raw.toList then
    match Bytes.text? (Percent.decode raw.toList) with
    | some text => if text.toList.contains '\x00' then .error .nulByte else .ok text
    | none => .error .invalidUtf8
  else .error .invalidEscape

/-- The canonical path that a percent-encoded path stands for. -/
def canonicalize (raw : String) : Except PathError String :=
  (decode raw).map fun text => join (resolve (segments text.toList))

/-- The characters that a request path need not escape. -/
def isUnreserved (c : Char) : Bool :=
  c.isAlphanum || c == '-' || c == '_' || c == '.' || c == '~'

/-- A path in the form in which it is requested, its slashes kept. -/
def encode (path : String) : String :=
  String.ofList (Percent.encode (fun c => isUnreserved c || c == '/') path.toList)

end RequestPath

end SinglePage
