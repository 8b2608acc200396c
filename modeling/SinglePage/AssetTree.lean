/-
The directory of assets, and the root document in it. A request path is looked up below the root of
the directory; the root document is read where the settings say that it is.
-/
import SinglePage.DiskPath
import SinglePage.FileTree

namespace SinglePage

/-- The path of a directory of assets, and the path of its root document. -/
structure AssetTree where
  root : String
  index : String
  deriving DecidableEq, Repr

/-- What a request path leads to among the assets. -/
inductive Lookup where
  /-- A file, at this path of the disk. -/
  | file (path : String)
  | missing
  deriving DecidableEq, Repr

namespace AssetTree

/-- Why a directory of assets cannot be used. -/
inductive Error where
  | inaccessible (path : String) (cause : SystemError)
  | notADirectory (path : String)
  deriving DecidableEq, Repr

/-- The text of an error. -/
def Error.message : Error → String
  | .inaccessible path cause =>
    "asset directory " ++ path ++ " is not accessible: " ++ cause.message
  | .notADirectory path => "asset directory " ++ path ++ " is not a directory"

/-- The assets in a directory, which must exist. The root document need not. -/
def openAt (disk : Disk) (root indexFile : String) : Except Error AssetTree :=
  match disk root with
  | .ok .directory => .ok ⟨root, DiskPath.join root indexFile⟩
  | .ok _ => .error (.notADirectory root)
  | .error e => .error (.inaccessible root e)

/-- A request path as a path below the root. -/
def relative (path : String) : String := String.ofList (path.toList.dropWhile (· == '/'))

/-- The path of the disk that a request path stands for. -/
def location (tree : AssetTree) (path : String) : String := DiskPath.join tree.root (relative path)

/-- Looks up a request path. Only files are found; an error other than that there is no such entry
is an error of the look-up. -/
def lookup (tree : AssetTree) (disk : Disk) (path : String) : Except SystemError Lookup :=
  if relative path = "" then .ok .missing
  else
    match disk (tree.location path) with
    | .ok (.file _ _) => .ok (.file (tree.location path))
    | .ok _ => .ok .missing
    | .error e => if e.isMissing then .ok .missing else .error e

/-- The root document. -/
def readIndex (tree : AssetTree) (disk : Disk) : Except SystemError Bytes := disk.read tree.index

end AssetTree

end SinglePage
