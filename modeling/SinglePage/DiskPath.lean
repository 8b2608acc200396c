/-
Paths of the file system as texts: their components, and the joining of two of them.
-/
namespace SinglePage.DiskPath

/-- A part of a path. -/
inductive Component where
  /-- The slash in front of an absolute path. -/
  | root
  /-- A dot in front of a relative path. Any other dot stands for nothing. -/
  | here
  | parent
  | name (text : String)
  deriving DecidableEq, Repr

/-- The component that a segment behind a slash stands for, if it stands for one. -/
def component? (segment : List Char) : Option Component :=
  if segment = [] ∨ segment = ['.'] then none
  else if segment = ['.', '.'] then some .parent
  else some (.name (String.ofList segment))

/-- The component that the segment in front of the first slash stands for, if it stands for one. -/
def firstComponent? (segment : List Char) (slashFollows : Bool) : Option Component :=
  if segment = [] then if slashFollows then some .root else none
  else if segment = ['.'] then some .here
  else component? segment

/-- The components of a path. Repeated slashes, a slash at the end and inner dots make none. -/
def components (path : String) : List Component :=
  match path.toList.splitOn '/' with
  | [] => []
  | first :: rest => (firstComponent? first !rest.isEmpty).toList ++ rest.filterMap component?

/-- The component is a name. -/
def Component.isName : Component → Bool
  | .name _ => true
  | _ => false

/-- The path starts at the root of the file system. -/
def isAbsolute (path : String) : Bool := path.toList.head? == some '/'

/-- A path seen from a directory. An absolute one stays as it is. -/
def join (directory path : String) : String :=
  if isAbsolute path then path
  else if directory = "" ∨ directory.toList.getLast? = some '/' then directory ++ path
  else directory ++ "/" ++ path

end SinglePage.DiskPath
