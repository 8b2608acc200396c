/-
Changes of a file system by path, as they are made beside a running server.
-/
import SinglePage.FileTree

namespace SinglePage.FileTree

/-- A change of a file system. -/
inductive Change where
  /-- A file with this data and time of change, in the place of any file there. -/
  | file (path : String) (data : Bytes) (modified : Nat)
  | directory (path : String)
  | link (path target : String)
  /-- Another time of change for a file. -/
  | touch (path : String) (modified : Nat)
  | move (path target : String)
  /-- What stands at a path and all below it goes. -/
  | remove (path : String)
  deriving DecidableEq, Repr

/-- The directory at which segments end, made where there is none. -/
def enterDirectories (t : FileTree) (here : Location) : List String → FileTree × Location
  | [] => (t, here)
  | name :: rest =>
    match t.walkLinks maxLinks here [name] with
    | .ok l => enterDirectories t l rest
    | .error _ => enterDirectories (t.put (here ++ [name]) .directory) (here ++ [name]) rest

/-- The directory that an entry at a path would stand in, made where there is none, and the location
of that entry. -/
def place (t : FileTree) (here : Location) (path : String) : FileTree × Location :=
  let names := (segments path).filter (· ≠ "")
  let (t, parent) := t.enterDirectories (start here path) names.dropLast
  (t, parent ++ names.getLast?.toList)

/-- The location that a file at a path is written to: at the end of the links there. -/
def fileLocation (t : FileTree) : Nat → Location → Location
  | 0, l => l
  | n + 1, l =>
    match t.entry? l with
    | some (.link target) => fileLocation t n (t.place l.dropLast target).2
    | _ => l

/-- Makes a change seen from a directory. A touch without a file changes nothing. -/
def change (t : FileTree) (here : Location) : Change → FileTree
  | .file path data modified =>
    let (t, l) := t.place here path
    t.put (t.fileLocation maxLinks l) (.file data modified)
  | .directory path =>
    let names := (segments path).filter (· ≠ "")
    (t.enterDirectories (start here path) names).1
  | .link path target =>
    let (t, l) := t.place here path
    t.put l (.link target)
  | .touch path modified =>
    match t.locate here path with
    | .ok l =>
      match t.entry? l with
      | some (.file data _) => t.put l (.file data modified)
      | _ => t
    | .error _ => t
  | .move path target => t.move (t.place here path).2 (t.place here target).2
  | .remove path => t.remove (t.place here path).2

end SinglePage.FileTree
