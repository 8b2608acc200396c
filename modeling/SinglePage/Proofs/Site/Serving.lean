/-
Requests that reach the site. A request below the mount is served by its path there
(`enter_below`), and what it is served with is sent with its length and with a body that logs it
(`respond_of_serve`).
-/
import SinglePage.Proofs.Uri.Rewriting
import SinglePage.Site

namespace SinglePage

/-- A response as it is sent: it tells its length, and its body logs the request. -/
def Response.sent (request : Request) (response : Response Body) : Response LoggedBody :=
  (response.logged request).withLength LoggedBody.size?

/-- What is sent depends on the request only in the event that its body is to log. -/
theorem Response.sent_eq (request : Request) (response : Response Body) :
    response.sent request = (response.withLength Body.size?).logged request := by
  have hlength : (response.logged request).header? "content-length" = response.header? "content-length" := rfl
  have hsize : LoggedBody.size? (response.logged request).body = response.body.size? := rfl
  unfold sent withLength
  rw [hlength, hsize]
  split <;> rfl

@[simp] theorem Response.withLength_status (response : Response Body) :
    (response.withLength Body.size?).status = response.status := by
  unfold withLength
  split <;> rfl

@[simp] theorem Response.withLength_body (response : Response Body) :
    (response.withLength Body.size?).body = response.body := by
  unfold withLength
  split <;> rfl

@[simp] theorem Response.sent_status (request : Request) (response : Response Body) :
    (response.sent request).status = response.status := by
  rw [sent_eq, ← withLength_status response]
  rfl

@[simp] theorem Response.sent_headers (request : Request) (response : Response Body) :
    (response.sent request).headers = (response.withLength Body.size?).headers := by
  rw [sent_eq]
  rfl

@[simp] theorem Response.sent_body (request : Request) (response : Response Body) :
    (response.sent request).body = ⟨response.body, some (.of request response.status)⟩ := by
  rw [sent_eq, logged, withLength_status, withLength_body]
  rfl

/-- Data is sent with its length. -/
theorem Response.sent_ofData (request : Request) (status : Nat) (contentType : String) (data : Bytes) :
    (Response.ofData status contentType data).sent request =
      ⟨status, [("content-length", toString data.length), ("content-type", contentType)],
        ⟨.whole data, some (.of request status)⟩⟩ := by
  have hsize : LoggedBody.size? ⟨.whole data, some (.of request status)⟩ = some data.length := by
    show Option.filter (· = data.length) (some data.length) = some data.length
    rw [Option.filter_some, if_pos (decide_eq_true rfl)]
  unfold sent withLength logged ofData withBody
  rw [hsize]
  rfl

/-- Of an internal error a client is told nothing but that there is one. -/
theorem ServeError.sent_internal (request : Request) (context : String) (cause : SystemError) :
    (ServeError.internal context cause).response.sent request =
      ⟨500, [("content-length", "21"), ("content-type", "text/plain; charset=utf-8")],
        ⟨.whole (Bytes.ofText "Internal server error"), some (.of request 500)⟩⟩ := by
  have hlength : toString (Bytes.ofText "Internal server error").length = "21" := by decide
  show (Response.ofData 500 "text/plain; charset=utf-8" (Bytes.ofText "Internal server error")).sent request = _
  rw [Response.sent_ofData, hlength]

namespace Site

open RequestPath

/-! ## Below the mount -/

/-- The path of a request as it is seen below the mount, if it lies there. -/
def below? (site : Site) (path : String) : Option String :=
  match site.mount with
  | some start => (Mount.rest? start path).map Mount.rooted
  | none => some path

/-- A mount has a slash in front. -/
def HasRootedMount (site : Site) : Prop :=
  ∀ start, site.mount = some start → start.toList.head? = some '/'

section Requests

variable {site : Site} {disk : Disk} {request inner : Request} {path found : String} {document : Bytes}
  {e : SystemError}

/-- A request that has been read and whose path lies below the mount is seen there with that path,
and with all else as it was. -/
theorem enter_below (hread : request.uri.IsRead) (hmount : site.HasRootedMount)
    (h : site.below? request.uri.path = some path) :
    ∃ uri, site.enter request = .ok { request with uri } ∧ uri.path = path ∧
      uri.query? = request.uri.query? := by
  unfold below? at h
  unfold enter
  cases hm : site.mount with
  | none =>
    rw [hm] at h
    exact ⟨request.uri, rfl, Option.some.inj h, rfl⟩
  | some start =>
    rw [hm] at h
    obtain ⟨rest, hrest, rfl⟩ := Option.map_eq_some_iff.1 h
    obtain ⟨uri, he, hp, hq, -⟩ := Mount.enter_eq (hmount start hm) hread hrest
    exact ⟨uri, he, hp, hq⟩

/-! ## What is sent -/

theorem respond_eq (site : Site) (disk : Disk) (request : Request) :
    site.respond disk request = ((site.answer disk request).1.sent request, (site.answer disk request).2) := rfl

theorem respond_of_serve {response : Response Body} (he : site.enter request = .ok inner)
    (hs : site.serve disk inner = .ok response) :
    site.respond disk request = (response.sent request, []) := by
  unfold respond answer
  simp only [he, hs]
  rfl

theorem respond_of_serve_error {e : ServeError} (he : site.enter request = .ok inner)
    (hs : site.serve disk inner = .error e) :
    site.respond disk request = (e.response.sent request, e.log) := by
  unfold respond answer
  simp only [he, hs]
  rfl

/-! ## What is served -/

section Canonical

variable (hpath : canonicalize inner.uri.path = .ok path) (hscript : path ≠ scriptPath)

include hpath hscript

/-- What is missing is the root document. -/
theorem serve_missing (hlookup : site.assets.lookup disk path = .ok .missing)
    (hdoc : site.assets.readIndex disk = .ok document) :
    site.serve disk inner = .ok (.ofData 200 "text/html; charset=utf-8" document) := by
  unfold serve sendIndex
  simp only [hpath, if_neg hscript, hlookup, hdoc]

/-- A file is left to the service of files. -/
theorem serve_file (hlookup : site.assets.lookup disk path = .ok (.file found)) :
    site.serve disk inner = .ok (FileService.respond disk site.assets.root (fileRequest inner path)) := by
  unfold serve
  simp only [hpath, if_neg hscript, hlookup]

theorem serve_error (hlookup : site.assets.lookup disk path = .error e) :
    site.serve disk inner = .error (.internal "failed to open file" e) := by
  unfold serve
  simp only [hpath, if_neg hscript, hlookup]

end Canonical

end Requests

end Site

end SinglePage
