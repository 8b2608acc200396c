/-
Media types of files, by the extension of their names. Extensions are compared without regard to
case, as Unicode folds it.
-/
import SinglePage.Http.MediaType.Application
import SinglePage.Http.MediaType.Vendor
import SinglePage.Http.MediaType.Text
import SinglePage.Http.MediaType.Image
import SinglePage.Http.MediaType.Audio
import SinglePage.Http.MediaType.Video
import SinglePage.Http.MediaType.Model

namespace SinglePage.MediaType

/-! ## The registry -/

/-- The kinds of media, each with its subtypes and the extensions of their files. -/
def kinds : List (String × List (String × List String)) :=
  [("text", texts), ("image", images), ("application", applications), ("application", vendors),
    ("audio", sounds), ("video", videos), ("font", fonts), ("model", models),
    ("message", messages), ("chemical", chemicals), ("drawing", drawings), ("x-world", worlds),
    ("x-conference", conferences)]

/-- The type of data of which nothing is known. -/
def unknown : String := "application/octet-stream"

/-! ## Extensions -/

/-- What a character stands for where case does not count: a small letter, or the letters that a
ligature joins. Of the characters outside ASCII, only those that fold into ASCII are changed, for
no extension in the registry holds another. -/
def foldCase : Char → List Char
  | 'ſ' => ['s']
  | '\u212A' => ['k']
  | 'ß' => ['s', 's']
  | 'ẞ' => ['s', 's']
  | 'ﬀ' => ['f', 'f']
  | 'ﬁ' => ['f', 'i']
  | 'ﬂ' => ['f', 'l']
  | 'ﬃ' => ['f', 'f', 'i']
  | 'ﬄ' => ['f', 'f', 'l']
  | 'ﬅ' => ['s', 't']
  | 'ﬆ' => ['s', 't']
  | c => [c.toLower]

/-- What follows the last dot of a file name, unless the dot comes first. -/
def extension? (name : String) : Option String :=
  let reversed := name.toList.reverse
  let extension := reversed.takeWhile (· != '.')
  if extension.length + 1 < reversed.length then some (String.ofList extension.reverse) else none

/-- The media type of files with an extension. -/
def ofExtension? (extension : String) : Option String :=
  let folded := String.ofList (extension.toList.flatMap foldCase)
  kinds.findSome? fun (kind, subtypes) =>
    (subtypes.find? (·.2.contains folded)).map fun (subtype, _) => kind ++ "/" ++ subtype

/-! ## Files -/

/-- The file name at the end of a path. -/
def fileName (path : String) : String :=
  String.ofList (path.toList.reverse.takeWhile (· != '/')).reverse

/-- The media type of the file at a path. -/
def ofPath (path : String) : String :=
  ((extension? (fileName path)).bind ofExtension?).getD unknown

end SinglePage.MediaType
