/-
Directories, files and links, and the paths that lead to them. A path is followed one segment at a
time from the root or from the working directory; a link on the way is replaced by the path it
holds, forty times at most.
-/
import SinglePage.Bytes
import SinglePage.SystemError

namespace SinglePage

/-! ## Reading from a disk -/

/-- A file that has been opened. Reading it is taken not to fail. -/
structure OpenFile where
  data : Bytes
  /-- One can move in it, to read a part of the data. -/
  movable : Bool
  deriving DecidableEq, Repr

/-- What a path leads to. -/
inductive Found where
  | directory
  /-- A file: what comes of opening it, and the time of its last change, in seconds. -/
  | file (opened : Except SystemError OpenFile) (modified : Nat)
  /-- Something else, such as a device, that data can be read from. -/
  | device (data : Bytes)
  deriving Repr

/-- What each path leads to. -/
abbrev Disk := String → Except SystemError Found

namespace Disk

/-- The disk on which these paths lead to what is given with them, and no other path to anything. -/
def ofFound (found : List (String × Except SystemError Found)) : Disk :=
  fun path => (found.lookup path).getD (.error .notFound)

/-- The data that can be read at a path. -/
def read (disk : Disk) (path : String) : Except SystemError Bytes :=
  match disk path with
  | .ok (.file opened _) => opened.map (·.data)
  | .ok (.device data) => .ok data
  | .ok .directory => .error .isADirectory
  | .error e => .error e

/-- Opens the file at a path, if it is one, and tells the time of its last change. -/
def openFile (disk : Disk) (path : String) : Except SystemError (Option (OpenFile × Nat)) :=
  match disk path with
  | .ok (.file opened modified) => opened.map fun file => some (file, modified)
  | .ok _ => .ok none
  | .error e => .error e

end Disk

/-! ## Trees -/

/-- The names that lead from the root to an entry. -/
abbrev Location := List String

/-- What stands at a location. -/
inductive Entry where
  | directory
  | file (data : Bytes) (modified : Nat)
  | link (target : String)
  /-- A file by which the system shows something of its own. It is empty, and one cannot move in it. The
  system lets nobody read it, either, which is left out, as are all failures to read. -/
  | handle (modified : Nat)
  /-- The device without data. -/
  | null
  deriving DecidableEq, Repr

/-- What is found where an entry stands. A link is not found: it is followed. -/
def Entry.found? : Entry → Option Found
  | .directory => some .directory
  | .file data modified => some (.file (.ok ⟨data, true⟩) modified)
  | .link _ => none
  | .handle modified => some (.file (.ok ⟨[], false⟩) modified)
  | .null => some (.device [])

/-- The entries of a file system by location. -/
structure FileTree where
  entries : List (Location × Entry)
  deriving DecidableEq, Repr

namespace FileTree

/-- A file system in which nothing has been put yet. Of what the system has in it by itself there are the
device without data and the handle of a process on its network. -/
def empty : FileTree :=
  ⟨[(["dev"], .directory), (["dev", "null"], .null), (["proc"], .directory), (["proc", "self"], .directory),
    (["proc", "self", "ns"], .directory), (["proc", "self", "ns", "net"], .handle 0)]⟩

/-- What stands at a location; at the root, always a directory. -/
def entry? (t : FileTree) (l : Location) : Option Entry :=
  if l = [] then some .directory else t.entries.lookup l

/-! ## Following paths -/

/-- The most bytes of a name. -/
def maxName : Nat := 255

/-- A path of this many bytes is too long. -/
def maxPath : Nat := 4096

/-- The most links on the way. -/
def maxLinks : Nat := 40

/-- Where a path starts. -/
def start (here : Location) (path : String) : Location :=
  if path.toList.head? = some '/' then [] else here

/-- The segments of a path. -/
def segments (path : String) : List String := (path.toList.splitOn '/').map String.ofList

/-- Follows segments from a location up to the first link, and from there by `follow`. An empty
segment and a dot stay in a directory. -/
def walk (t : FileTree) (follow : Location → List String → Except SystemError Location) :
    Location → List String → Except SystemError Location
  | here, [] => .ok here
  | here, name :: rest =>
    if t.entry? here ≠ some .directory then .error .notADirectory
    else if name = "" ∨ name = "." then walk t follow here rest
    else if name = ".." then walk t follow here.dropLast rest
    else if maxName < name.utf8ByteSize then .error .nameTooLong
    else
      match t.entry? (here ++ [name]) with
      | none => .error .notFound
      | some (.link target) => follow (start here target) (segments target ++ rest)
      | some _ => walk t follow (here ++ [name]) rest

/-- Follows segments from a location by way of at most so many links. -/
def walkLinks (t : FileTree) : Nat → Location → List String → Except SystemError Location
  | 0 => walk t fun _ _ => .error .tooManyLinks
  | n + 1 => walk t (walkLinks t n)

/-- The location that a path leads to from a directory. -/
def locate (t : FileTree) (here : Location) (path : String) : Except SystemError Location :=
  if path.toList.contains '\x00' then .error .nulInName
  else if maxPath ≤ path.utf8ByteSize then .error .nameTooLong
  else if path = "" then .error .notFound
  else walkLinks t maxLinks (start here path) (segments path)

/-- The file system as it is seen from a directory. -/
def disk (t : FileTree) (here : Location) : Disk := fun path => do
  match (t.entry? (← t.locate here path)).bind Entry.found? with
  | some found => return found
  | none => throw .notFound

/-! ## Changes -/

/-- Puts an entry at a location, in the place of what stands there. -/
def put (t : FileTree) (l : Location) (e : Entry) : FileTree :=
  ⟨(l, e) :: t.entries.filter (·.1 ≠ l)⟩

/-- Takes away what stands at a location and below it. -/
def remove (t : FileTree) (l : Location) : FileTree := ⟨t.entries.filter fun e => !l.isPrefixOf e.1⟩

/-- Moves what stands at a location, and what stands below it, to another in the place of what
stands there. -/
def move (t : FileTree) (l target : Location) : FileTree :=
  if l = target then t
  else
    ⟨(t.remove target).entries.map fun e =>
      if l.isPrefixOf e.1 then (target ++ e.1.drop l.length, e.2) else e⟩

end FileTree

end SinglePage
