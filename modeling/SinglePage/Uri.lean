/-
Request URIs, in the four forms in which a request can name its target: a path and query alone, an
asterisk (a path of its own), a whole URI, or an authority alone. `parse` reads a URI, `text` writes
it, and `withPath?` puts another path in the place of its own.
-/
import SinglePage.Uri.Target

namespace SinglePage

/-- A request URI. -/
inductive Uri where
  /-- A path and query, or an asterisk. -/
  | originForm (target : Target)
  /-- A scheme, an authority, a path and a query. -/
  | absoluteForm (scheme authority : String) (target : Target)
  /-- An authority alone. -/
  | authorityForm (authority : String)
  deriving DecidableEq, Repr

namespace Uri

/-! ## Parts -/

/-- The scheme, if the URI has one. -/
def scheme? : Uri → Option String
  | .absoluteForm scheme _ _ => some scheme
  | _ => none

/-- The authority, if the URI has one. -/
def authority? : Uri → Option String
  | .absoluteForm _ authority _ => some authority
  | .authorityForm authority => some authority
  | .originForm _ => none

/-- The query, if the URI has one. -/
def query? : Uri → Option String
  | .originForm target => target.query
  | .absoluteForm _ _ target => target.query
  | .authorityForm _ => none

/-- The path. An empty path in front of a query or behind an authority reads as '/'. -/
def path : Uri → String
  | .originForm target => if target.path = "" ∧ target.query.isSome then "/" else target.path
  | .absoluteForm _ _ target => if target.path = "" then "/" else target.path
  | .authorityForm _ => ""

/-- The whole URI. -/
def text (u : Uri) : String :=
  (match u.scheme? with | some s => s ++ "://" | none => "") ++ u.authority?.getD "" ++
    Target.render u.path u.query?

/-! ## The authority -/

/-- What has been seen of an authority: colons and a '%' since the last '@' or ']', the two
brackets, and whether the last character is '@'. -/
structure AuthorityScan where
  colons : Nat := 0
  opened : Bool := false
  closed : Bool := false
  percent : Bool := false
  afterAt : Bool := false

/-- Characters of an authority without a meaning of their own. -/
def isAuthorityChar (c : Char) : Bool := c.isAlphanum || "!$&'()*+,-.;=_~".toList.contains c

/-- Takes in one character. -/
def AuthorityScan.step (s : AuthorityScan) (c : Char) : Except UriError AuthorityScan :=
  if c = ':' then
    if 8 ≤ s.colons then .error .invalidAuthority
    else .ok { s with colons := s.colons + 1, afterAt := false }
  else if c = '[' then
    if s.percent || s.opened then .error .invalidAuthority
    else .ok { s with opened := true, afterAt := false }
  else if c = ']' then
    if !s.opened || s.closed then .error .invalidAuthority
    else .ok { s with closed := true, colons := 0, percent := false, afterAt := false }
  else if c = '@' then .ok { s with colons := 0, percent := false, afterAt := true }
  else if c = '%' then .ok { s with percent := true, afterAt := false }
  else if isAuthorityChar c then .ok { s with afterAt := false }
  else .error .invalidCharacter

/-- Brackets are paired, one colon at most stands before a port, a host follows '@', and no '%'
stands outside user information and brackets. -/
def AuthorityScan.accepts (s : AuthorityScan) : Bool :=
  s.opened == s.closed && s.colons ≤ 1 && !s.afterAt && !s.percent

/-- An authority goes on until one of these. -/
def endsAuthority (c : Char) : Bool := c == '/' || c == '?' || c == '#'

/-- Splits an authority from what follows it. -/
def splitAuthority (cs : List Char) : Except UriError (List Char × List Char) := do
  let authority := cs.takeWhile (!endsAuthority ·)
  let seen ← authority.foldlM AuthorityScan.step {}
  if seen.accepts then .ok (authority, cs.dropWhile (!endsAuthority ·))
  else .error .invalidAuthority

/-! ## Reading -/

/-- Characters of a scheme. -/
def isSchemeChar (c : Char) : Bool := c.isAlphanum || "+-.~".toList.contains c

/-- The most characters that a scheme may have. -/
def maxSchemeLength : Nat := 64

/-- Splits a scheme and "://" from what follows them. The two web schemes are written in lower
case. -/
def splitScheme (cs : List Char) : Except UriError (Option (String × List Char)) :=
  if (cs.take 7).map Char.toLower = "http://".toList then .ok (some ("http", cs.drop 7))
  else if (cs.take 8).map Char.toLower = "https://".toList then .ok (some ("https", cs.drop 8))
  else
    let name := cs.takeWhile isSchemeChar
    match cs.dropWhile isSchemeChar with
    | ':' :: '/' :: '/' :: rest =>
      if name = [] ∧ rest = [] then .ok none
      else if maxSchemeLength < name.length then .error .schemeTooLong
      else .ok (some (String.ofList name, rest))
    | _ => .ok none

/-- Reads a URI that starts with an authority, or with a scheme in front of it. -/
def parseAuthorityForms (cs : List Char) : Except UriError Uri := do
  match ← splitScheme cs with
  | some (scheme, rest) =>
    if rest = [] then throw .empty
    let (authority, rest) ← splitAuthority rest
    if authority = [] then throw .invalidFormat
    return .absoluteForm scheme (String.ofList authority) (← Target.scan rest)
  | none =>
    let (authority, rest) ← splitAuthority cs
    if rest = [] then return .authorityForm (String.ofList authority)
    throw (if cs.length = 1 then .invalidCharacter else .invalidFormat)

/-- The URI that a text spells. -/
def parse (text : String) : Except UriError Uri :=
  if Target.maxSize < text.utf8ByteSize then .error .tooLong
  else
    match text.toList with
    | [] => .error .empty
    | ['*'] => .ok (.originForm ⟨"*", none⟩)
    | '/' :: rest => (Target.scan ('/' :: rest)).map .originForm
    | cs => parseAuthorityForms cs

/-! ## Another path -/

/-- The URI with another path and query. An authority alone has no place for them. -/
def withTarget? : Uri → Target → Option Uri
  | .originForm _, target => some (.originForm target)
  | .absoluteForm scheme authority _, target => some (.absoluteForm scheme authority target)
  | .authorityForm _, _ => none

/-- The URI with another path and its own query, where that path and query are read as a text. -/
def withPath? (u : Uri) (path : String) : Option Uri :=
  (Target.parse? (Target.render path u.query?)).bind u.withTarget?

end Uri

end SinglePage
