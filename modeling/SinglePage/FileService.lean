/-
The service of files below a directory, with conditions on the time of change and with ranges. It
answers requests for a file and for its headers; what it is asked for is no file, it answers with
404.
-/
import SinglePage.FileTree
import SinglePage.DiskPath
import SinglePage.Http.Date
import SinglePage.Http.MediaType
import SinglePage.Http.Message
import SinglePage.Http.Range
import SinglePage.Percent

namespace SinglePage.FileService

open DiskPath

/-! ## Paths -/

/-- Where the service starts from: a relative path is seen from the working directory. -/
def baseOf (root : String) : String := join "." root

/-- The path of the disk at which the components of a request path end. None may lead up or to the
root. -/
def extend (base : String) : List Component → Option String
  | [] => some base
  | .name name :: rest => extend (join base name) rest
  | .here :: rest => extend base rest
  | .parent :: _ | .root :: _ => none

/-- The path of the disk that the path of a request stands for. -/
def location? (root path : String) : Option String := do
  let decoded ← Bytes.text? (Percent.decode (path.toList.dropWhile (· == '/')))
  extend (baseOf root) (components decoded)

/-! ## Conditions -/

/-- The date in a header. -/
def dateOf? (request : Request) (name : String) : Option Date := do
  Date.parse? (← Bytes.text? (← request.header? name))

/-- The status that a condition on the time of change leads to, where the file is not sent: 412 if
it must not have changed but has, 304 if it must have changed but has not. -/
def conditionStatus? (request : Request) (modified : Nat) : Option Nat :=
  if (dateOf? request "if-unmodified-since").any (·.seconds < modified) then some 412
  else if (dateOf? request "if-modified-since").any (modified ≤ ·.seconds) then some 304
  else none

/-! ## Responses -/

/-- Headers of all responses that tell of a file. -/
def fileHeaders (path : String) (modified : Nat) : List (String × String) :=
  [("content-type", MediaType.ofPath path), ("accept-ranges", "bytes"),
    ("last-modified", (Date.ofSeconds modified).text)]

/-- The body of a response, which a request for headers alone does not get. -/
def bodyFor (request : Request) (data : Bytes) : Body :=
  if request.method = .head then .empty else .file data

/-- Where the range lies in data of a size. -/
def contentRange (r : ByteRange) (size : Nat) : String :=
  "bytes " ++ toString r.first ++ "-" ++ toString r.last ++ "/" ++ toString size

/-- What is told of ranges that cannot be sent. -/
def noRange (size : Nat) : String × String := ("content-range", "bytes */" ++ toString size)

/-- The text that answers a request for several ranges. -/
def severalRanges : String := "Cannot serve multipart range requests"

/-- The response where a file cannot be opened, or cannot be moved in. The cause is not told; the service
logs it under a name of its own, apart from the lines of the site. -/
def failure (cause : SystemError) : Response Body :=
  .ofStatus (if cause.isMissing || cause.isDenied then 404 else 500)

/-- The response with a file. -/
def sendFile (request : Request) (path : String) (file : OpenFile) (modified : Nat) : Response Body :=
  let headers := fileHeaders path modified
  let size := file.data.length
  match (request.header? "range").bind headerText? with
  | none =>
    ⟨200, ("content-length", toString size) :: headers, bodyFor request file.data⟩
  | some header =>
    match ByteRange.parse? header size with
    | some [range] =>
      if file.movable then
        ⟨206, ("content-range", contentRange range size) ::
          ("content-length", toString range.length) :: headers, bodyFor request (range.slice file.data)⟩
      else failure .illegalSeek
    | some _ => ⟨416, noRange size :: headers, .whole (Bytes.ofText severalRanges)⟩
    | none => ⟨416, noRange size :: headers, .empty⟩

/-- The response to a request for a file below `root`. A request for headers alone is taken to be answered
as one for the file; the service would not open the file for it, which makes a difference for files only
that cannot be opened or moved in. -/
def respond (disk : Disk) (root : String) (request : Request) : Response Body :=
  match location? root request.uri.path with
  | none => .ofStatus 404
  | some path =>
    match disk.openFile path with
    | .error cause => failure cause
    | .ok none => .ofStatus 404
    | .ok (some (file, modified)) =>
      match conditionStatus? request modified with
      | some status => .ofStatus status
      | none => sendFile request path file modified

/-- Disks that agree on the path that a request stands for lead to the same response. -/
theorem respond_congr {disk disk' : Disk} {root : String} {request : Request}
    (h : ∀ path ∈ location? root request.uri.path, disk path = disk' path) :
    respond disk root request = respond disk' root request := by
  unfold respond Disk.openFile
  split
  · rfl
  · next path hp => rw [h path hp]

end SinglePage.FileService
