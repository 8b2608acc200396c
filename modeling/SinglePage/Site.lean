/-
The site: a directory of assets and the script of exported variables, mounted below a path. A
request is answered with the script, with an asset, or with the root document, which is to make
sense of all other paths. Every request is logged.
-/
import SinglePage.AccessLog
import SinglePage.AssetTree
import SinglePage.EnvModule
import SinglePage.FileService
import SinglePage.Mount
import SinglePage.ServeError

namespace SinglePage

/-- What the server serves, and below which path; without one, at the root. -/
structure Site where
  assets : AssetTree
  script : EnvModule
  mount : Option String
  deriving DecidableEq, Repr

namespace Site

/-- The path of the script. -/
def scriptPath : String := "/_app/env.js"

/-- The response with the script. -/
def sendScript (site : Site) : Response Body :=
  .ofData 200 "application/javascript" site.script.body

/-- The response with the root document. -/
def sendIndex (site : Site) (disk : Disk) : Except ServeError (Response Body) :=
  match site.assets.readIndex disk with
  | .ok document => .ok (.ofData 200 "text/html; charset=utf-8" document)
  | .error e => .error (.internal "failed to read root document" e)

/-- A request for the file at a canonical path. Its method becomes one that the service of files
knows, and its own spelling of the path gives way to the canonical one, unless there is no place for
that in its URI. -/
def fileRequest (request : Request) (path : String) : Request :=
  { request with
    uri := (request.uri.withPath? (RequestPath.encode path)).getD request.uri
    method := if request.method = .head then .head else .get }

/-- The response to a request seen below the mount. -/
def serve (site : Site) (disk : Disk) (request : Request) : Except ServeError (Response Body) :=
  match RequestPath.canonicalize request.uri.path with
  | .error e => .error (.badRequest e)
  | .ok path =>
    if path = scriptPath then .ok site.sendScript
    else
      match site.assets.lookup disk path with
      | .ok .missing => site.sendIndex disk
      | .ok (.file _) =>
        .ok (FileService.respond disk site.assets.root (fileRequest request path))
      | .error e => .error (.internal "failed to open file" e)

/-- The request as it is seen below the mount, or the response to a request that is not. -/
def enter (site : Site) (request : Request) : Except (Response Body) Request :=
  match site.mount with
  | some start => Mount.enter start request
  | none => .ok request

/-- The response to a request, and what is logged on the way to it. -/
def answer (site : Site) (disk : Disk) (request : Request) : Response Body × List LogLine :=
  match site.enter request with
  | .error response => (response, [])
  | .ok inner =>
    match site.serve disk inner with
    | .ok response => (response, [])
    | .error e => (e.response, e.log)

/-- The response to a request as it is sent, with a body that logs the request, and what is logged
before it is sent. -/
def respond (site : Site) (disk : Disk) (request : Request) : Response LoggedBody × List LogLine :=
  let (response, log) := site.answer disk request
  ((response.logged request).withLength LoggedBody.size?, log)

/-! ## What a response depends on -/

/-- The paths of the disk that the response to a request depends on. -/
def consulted (site : Site) (request : Request) : List String :=
  match site.enter request with
  | .error _ => []
  | .ok inner =>
    match RequestPath.canonicalize inner.uri.path with
    | .error _ => []
    | .ok path =>
      site.assets.location path :: site.assets.index ::
        (FileService.location? site.assets.root (fileRequest inner path).uri.path).toList

/-- Disks that agree on the consulted paths lead to the same response. -/
theorem respond_congr {site : Site} {disk disk' : Disk} {request : Request}
    (h : ∀ path ∈ site.consulted request, disk path = disk' path) :
    site.respond disk request = site.respond disk' request := by
  unfold respond answer
  unfold consulted at h
  cases he : site.enter request with
  | error e => rfl
  | ok inner =>
    simp only [he] at h
    have hs : site.serve disk inner = site.serve disk' inner := by
      unfold serve
      cases hc : RequestPath.canonicalize inner.uri.path with
      | error e => rfl
      | ok path =>
        simp only [hc, List.mem_cons, Option.mem_toList] at h
        have hl : site.assets.lookup disk path = site.assets.lookup disk' path := by
          simp only [AssetTree.lookup, h _ (.inl rfl)]
        have hi : site.sendIndex disk = site.sendIndex disk' := by
          simp only [sendIndex, AssetTree.readIndex, Disk.read, h _ (.inr (.inl rfl))]
        have hf : FileService.respond disk site.assets.root (fileRequest inner path) =
            FileService.respond disk' site.assets.root (fileRequest inner path) :=
          FileService.respond_congr fun p hp => h p (.inr (.inr hp))
        simp only [hl, hi, hf]
    simp only [hs]

end Site

end SinglePage
