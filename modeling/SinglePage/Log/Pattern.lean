/-
Patterns for the values of fields: which texts are patterns that can be used. A pattern is a
regular expression. It stands between braces, and holds no closing brace; so what would need one,
such as a count, is refused.
-/
import SinglePage.Log.Pattern.Class
import SinglePage.Text.Alphanumeric

namespace SinglePage.Pattern

/-! ## Groups -/

/-- What a parenthesis opens. -/
inductive Opening where
  | group (mode : Mode) (name : Option (List Char))
  /-- Flags for what follows in the same group. -/
  | flags (mode : Mode)
  deriving DecidableEq, Repr

/-- A text can be the name of a group. -/
def isName : List Char → Bool
  | [] => false
  | c :: cs =>
    (c == '_' || Text.isLetter c) &&
      cs.all fun c => "_.[]".toList.contains c || Text.isAlphanumeric c

/-- The name in front of a closing angle bracket, and what follows it. -/
def groupName (m : Mode) (cs : List Char) : Except Error (Opening × List Char) :=
  let name := cs.takeWhile (· != '>')
  match cs.dropWhile (· != '>') with
  | _ :: rest => if isName name then .ok (.group m (some name), rest) else .error .malformed
  | [] => .error .malformed

/-- The start of a group behind its parenthesis, and what follows it. -/
def opening (m : Mode) (cs : List Char) : Except Error (Opening × List Char) :=
  match m.skip cs with
  | '?' :: 'P' :: '<' :: rest => groupName m rest
  | '?' :: '<' :: rest => groupName m rest
  | '?' :: rest =>
    let isEnd (c : Char) : Bool := c == ':' || c == ')'
    let flags := rest.takeWhile (!isEnd ·)
    match areFlags flags, rest.dropWhile (!isEnd ·) with
    | true, ':' :: rest => .ok (.group (m.withFlags flags) none, rest)
    | true, ')' :: rest =>
      if flags = [] then .error .malformed else .ok (.flags (m.withFlags flags), rest)
    | _, _ => .error .malformed
  | cs => .ok (.group m none, cs)

/-! ## Patterns -/

/-- What has been read of a group, or of a pattern outside its groups. -/
structure Level where
  /-- The alternatives in front of the last. -/
  alternatives : Row := {}
  /-- The parts of the last alternative. -/
  parts : Row := {}
  /-- The last part can be repeated. -/
  repeatable : Bool := false
  deriving DecidableEq, Repr

namespace Level

/-- Takes in a part. -/
def push (l : Level) (depth : Nat) : Level :=
  { l with parts := l.parts.push depth, repeatable := true }

/-- Takes in flags, a part that cannot be repeated. -/
def pushFlags (l : Level) : Level := { l with parts := l.parts.push 0, repeatable := false }

/-- Takes in the sign between two alternatives. -/
def alternate (l : Level) : Level := { alternatives := l.alternatives.push l.parts.depth }

/-- Takes in a sign that repeats the last part. -/
def repeatLast (l : Level) : Level := { l with parts := l.parts.wrapLast }

/-- How deep the level nests. -/
def depth (l : Level) : Nat := (l.alternatives.push l.parts.depth).depth

end Level

/-- What has been read of a pattern. -/
structure State where
  mode : Mode := {}
  /-- What has been read of the innermost group. -/
  level : Level := {}
  /-- The modes outside the open groups, and what has been read there, the innermost first. -/
  outer : List (Mode × Level) := []
  /-- The names of groups. -/
  names : List (List Char) := []
  /-- The edge of a word is asked for among all characters. -/
  wordEdge : Bool := false
  deriving DecidableEq, Repr

namespace State

/-- Takes in a part that holds no other. -/
def plain (s : State) : State := { s with level := s.level.push 0 }

/-- Takes in an atom. -/
def take (s : State) (a : Atom) : Except Error State :=
  if s.mode.admits false a then
    .ok { s.plain with wordEdge := s.wordEdge || (a == .wordEdge && s.mode.unicode) }
  else .error .malformed

/-- Takes in the start of a group, or flags. -/
def enter (s : State) : Opening → Except Error State
  | .flags mode => .ok { s with mode, level := s.level.pushFlags }
  | .group mode name =>
    if name.any s.names.contains then .error .malformed
    else .ok { s with
      mode, level := {}, outer := (s.mode, s.level) :: s.outer, names := name.toList ++ s.names }

/-- Takes in the end of a group. -/
def leave (s : State) : Except Error State :=
  match s.outer with
  | [] => .error .malformed
  | (mode, level) :: outer => .ok { s with mode, level := level.push (s.level.depth + 1), outer }

/-- Takes in a text. Each step takes a character at least. -/
def read (fuel : Nat) (s : State) (cs : List Char) : Except Error State :=
  match fuel, s.mode.skip cs with
  | _, [] => if s.outer = [] then .ok s else .error .malformed
  | fuel + 1, '(' :: rest => do
    let (opened, rest) ← opening s.mode rest
    read fuel (← s.enter opened) rest
  | fuel + 1, ')' :: rest => do read fuel (← s.leave) rest
  | fuel + 1, '[' :: rest => do
    let (depth, rest) ← readClass s.mode rest.length {} [] (← openClass s.mode rest)
    read fuel { s with level := s.level.push depth } rest
  | fuel + 1, '\\' :: rest => do
    let (a, rest) ← escape s.mode rest
    read fuel (← s.take a) rest
  | fuel + 1, c :: rest =>
    if c = '|' then read fuel { s with level := s.level.alternate } rest
    else if c = '*' ∨ c = '+' ∨ c = '?' then
      if s.level.repeatable then
        -- a question mark behind the sign belongs to it
        let rest := if rest.head? = some '?' then rest.drop 1 else rest
        read fuel { s with level := s.level.repeatLast } rest
      else .error .malformed
    else if c = '\x7b' then .error .malformed
    else if c = '.' then if s.mode.unicode then read fuel s.plain rest else .error .malformed
    else if c = '^' ∨ c = '$' then read fuel s.plain rest
    else do read fuel (← s.take (.literal c false)) rest
  | 0, _ => .error .malformed

end State

/-- A text is a pattern that can be used, or why not. -/
def check (text : String) : Except Error Unit := do
  let s ← State.read (text.length + 1) {} text.toList
  if depthLimit < s.level.depth then throw .malformed
  if s.wordEdge then throw .wordEdge

end SinglePage.Pattern
