/-
Every file among the assets can be requested. Behind the mount, its names are written with all but
unreserved characters escaped; this is a URI, and the response to it is the whole file, byte for byte,
whatever characters the names have (`respond_reachable`).
-/
import SinglePage.Proofs.AccessLog.Polling
import SinglePage.Proofs.Site.Spelling

namespace SinglePage

open FileTree RequestPath

/-! ## Requests for a whole file -/

/-- A request for a whole file, whenever it was changed. -/
structure Request.IsPlain (request : Request) : Prop where
  method : request.method ≠ .head
  range : request.header? "range" = none
  modified : request.header? "if-modified-since" = none
  unmodified : request.header? "if-unmodified-since" = none

/-- It stays one for another URI. -/
theorem Request.IsPlain.withUri {request : Request} (h : request.IsPlain) (uri : Uri) :
    { request with uri }.IsPlain := ⟨h.method, h.range, h.modified, h.unmodified⟩

/-- It is left to the service of files as one. -/
theorem Request.IsPlain.fileRequest {request : Request} (h : request.IsPlain) (path : String) :
    (Site.fileRequest request path).IsPlain := by
  refine ⟨?_, h.range, h.modified, h.unmodified⟩
  show (if request.method = .head then Method.head else .get) ≠ .head
  rw [if_neg h.method]
  decide

namespace FileService

theorem conditionStatus?_of_isPlain {request : Request} (h : request.IsPlain) (modified : Nat) :
    conditionStatus? request modified = none := by
  unfold conditionStatus? dateOf?
  rw [h.modified, h.unmodified]
  rfl

/-- Where there is a file, a plain request is answered with all of it. -/
theorem respond_of_isPlain {disk : Disk} {root path : String} {request : Request} {file : OpenFile}
    {modified : Nat} (h : request.IsPlain) (hloc : location? root request.uri.path = some path)
    (hdisk : disk path = .ok (.file (.ok file) modified)) :
    respond disk root request =
      ⟨200, ("content-length", toString file.data.length) :: fileHeaders path modified, .file file.data⟩ := by
  have hopen := Disk.openFile_eq_some_iff.2 hdisk
  rw [respond_of_openFile hloc hopen (conditionStatus?_of_isPlain h modified)]
  simp only [sendFile, h.range, bodyFor, if_neg h.method]
  rfl

end FileService

namespace Site

/-- The mount has a slash in front and holds characters of a URI's path only. -/
def HasWritableMount (site : Site) : Prop :=
  ∀ start, site.mount = some start →
    start.toList.head? = some '/' ∧ ∀ c ∈ start.toList, Target.isPathChar c = true

/-- The text by which a file is requested: the mount, and the names of the file as they are written in a
path. -/
def urlOf (site : Site) (ns : List Segment) : String := site.mount.getD "" ++ encode (join ns)

section Url

variable {site : Site} {ns : List Segment} (hmount : site.HasWritableMount)
  (hsize : (site.urlOf ns).utf8ByteSize ≤ Target.maxSize)

include hmount

theorem isPathChar_urlOf : ∀ c ∈ (site.urlOf ns).toList, Target.isPathChar c = true := by
  intro c hc
  rw [urlOf, String.toList_append, List.mem_append] at hc
  rcases hc with hc | hc
  · cases hm : site.mount with
    | none => rw [hm] at hc; cases hc
    | some start => rw [hm] at hc; exact (hmount start hm).2 c hc
  · exact isPathChar_encode _ c hc

theorem head?_urlOf : (site.urlOf ns).toList.head? = some '/' := by
  rw [urlOf, String.toList_append]
  cases hm : site.mount with
  | none => simpa using head?_encode (head?_join ns)
  | some start => simp [(hmount start hm).1]

/-- It is a URI, of which the path is all there is. -/
theorem parse_urlOf (hsize : (site.urlOf ns).utf8ByteSize ≤ Target.maxSize) :
    Uri.parse (site.urlOf ns) = .ok (.originForm ⟨site.urlOf ns, none⟩) :=
  Uri.parse_path (head?_urlOf hmount) (isPathChar_urlOf hmount) hsize

omit hmount in
/-- Below the mount, what is seen of it is what is written behind the mount. -/
theorem below?_urlOf (site : Site) (ns : List Segment) :
    site.below? (site.urlOf ns) = some (encode (join ns)) := by
  unfold below? urlOf
  cases hm : site.mount with
  | none => exact congrArg some (String.empty_append)
  | some start =>
    have hrest : Mount.rest? start (start ++ encode (join ns)) = some (encode (join ns)).toList :=
      Mount.rest?_eq_some_iff.2 (String.toList_append ..)
    obtain ⟨cs, hcs⟩ := List.head?_eq_some_iff.1 (head?_encode (head?_join ns))
    show (Mount.rest? start (start ++ encode (join ns))).map Mount.rooted = _
    rw [hrest, hcs, Option.map_some, Mount.rooted, ← hcs, String.ofList_toList]

end Url

/-! ## Files are reached -/

/-- The request for a file that the service of files gets is for the path of the file. -/
theorem fileRequest_path_of_size_le {request : Request} {path : String} (hs : path.toList.head? = some '/')
    (hpath : request.uri.path = encode path) (hquery : request.uri.query? = none)
    (hsize : (encode path).utf8ByteSize ≤ Target.maxSize) :
    (fileRequest request path).uri.path = encode path := by
  have hform : ∀ a, request.uri ≠ .authorityForm a := by
    intro a ha
    have hhead := head?_encode hs
    rw [← hpath, ha] at hhead
    cases hhead
  have hnone : request.uri.HasReadQuery := by
    rw [Uri.HasReadQuery, hquery]
    rintro q ⟨⟩
  refine (fileRequest_path hs hnone hform).1 ?_
  rw [TooLongToWrite, hquery]
  exact Nat.not_lt.2 hsize

section Reachable

variable {site : Site} {t : FileTree} {here l : Location} {ns : List Segment} {data : Bytes} {modified : Nat}
  (hroot : t.locate here site.assets.root = .ok l) (hne : ns ≠ []) (ho : ∀ s ∈ ns, IsOrdinary s)
  (hfile : t.HoldsFile l (ns.map String.ofList) data modified)
  (hlimit : (DiskPath.join "." (site.assets.location (join ns))).utf8ByteSize < maxPath)

include hroot hne ho hfile hlimit

/-- The file stands where the service of files looks for it. -/
theorem disk_locationOf :
    t.disk here (FileService.locationOf site.assets.root ns) = .ok (.file (.ok ⟨data, true⟩) modified) := by
  have hshort := (DiskPath.utf8ByteSize_le_join "." _).trans_lt hlimit
  rw [FileService.locationOf_eq ho hne,
    disk_dot_join_eq (AssetTree.disk_location_of_holdsFile hroot ho hne hfile hshort), if_neg (Nat.not_le.2 hlimit)]

/-- Below the mount, the path of the file is read back, the file is found by it, and the service of files
finds it by the path that is written anew. -/
theorem serve_of_holdsFile {request : Request} (hscript : join ns ≠ scriptPath) (hplain : request.IsPlain)
    (hpath : request.uri.path = encode (join ns)) (hquery : request.uri.query? = none)
    (hsize : (encode (join ns)).utf8ByteSize ≤ Target.maxSize) :
    site.serve (t.disk here) request = .ok ⟨200, ("content-length", toString data.length) ::
      FileService.fileHeaders (FileService.locationOf site.assets.root ns) modified, .file data⟩ := by
  have hcanonical : canonicalize request.uri.path = .ok (join ns) := by
    rw [hpath]
    exact canonicalize_encode ⟨ns, ho, rfl⟩
  have hlookup := AssetTree.lookup_of_holdsFile hroot ho hne hfile
    ((DiskPath.utf8ByteSize_le_join "." _).trans_lt hlimit)
  have hloc : FileService.location? site.assets.root (fileRequest request (join ns)).uri.path =
      some (FileService.locationOf site.assets.root ns) := by
    rw [fileRequest_path_of_size_le (head?_join ns) hpath hquery hsize]
    exact FileService.location?_encode ho site.assets.root
  rw [serve_file hcanonical hscript hlookup,
    FileService.respond_of_isPlain (hplain.fileRequest _) hloc (disk_locationOf hroot hne ho hfile hlimit)]

/-- A file whose names lead to it through directories is sent, as it is, to whoever requests it by the text
for these names. The path by which the service of files opens it must be below the limit of the
system, and the text must not be too long for a URI. -/
theorem respond_reachable (hscript : join ns ≠ scriptPath) (hmount : site.HasWritableMount)
    (hsize : (site.urlOf ns).utf8ByteSize ≤ Target.maxSize) :
    ∃ uri, Uri.parse (site.urlOf ns) = .ok uri ∧
      ∀ request : Request, request.uri = uri → request.IsPlain →
        let response := (site.respond (t.disk here) request).1
        response.status = 200 ∧ response.header? "content-length" = some (toString data.length) ∧
        (site.respond (t.disk here) request).2 = [] ∧
        ∀ n, (response.body.inner.framesLeft ≤ n → Body.delivered (response.body.polls n).1 = data) ∧
          ∀ detail, some (.failure detail) ∉ (response.body.polls n).1 := by
  have hparse := parse_urlOf hmount hsize
  refine ⟨_, hparse, fun request huri hplain => ?_⟩
  have hread : request.uri.IsRead := huri ▸ Uri.parse_isRead hparse
  have hbelow : site.below? request.uri.path = some (encode (join ns)) := by
    rw [huri, Uri.path_originForm_none, below?_urlOf]
  obtain ⟨uri, henter, hpath, hquery⟩ := enter_below hread (fun start hm => (hmount start hm).1) hbelow
  have hwritten : (encode (join ns)).utf8ByteSize ≤ Target.maxSize := by
    rw [urlOf, String.utf8ByteSize_append] at hsize
    omega
  have hserve := serve_of_holdsFile hroot hne ho hfile hlimit hscript (hplain.withUri uri) hpath
    (hquery.trans (by rw [huri]; rfl)) hwritten
  rw [respond_of_serve henter hserve]
  refine ⟨?_, ?_, rfl, fun n => ?_⟩
  · rw [Response.sent_status]
  · rw [Response.header?, Response.sent_headers]
    rfl
  · rw [Response.sent_body, LoggedBody.polls_fst, Body.delivered_file, Body.framesLeft_file_le_iff]
    exact ⟨List.take_of_length_le, Body.failure_not_mem_polls_file data n⟩

end Reachable

/-- A name that looks like an escape, a query and a fragment, with a quote, a backslash and another letter. -/
theorem respond_reachable_named :
    let name := "%2e?#\"\\é".toList
    let t : FileTree := ⟨[(["www"], .directory), (["www", "a b"], .directory),
      (["www", "a b", String.ofList name], .file [60, 61] 0), (["www", "loop"], .link "loop")]⟩
    let site : Site := ⟨⟨"/www", "/www/index.html"⟩, .empty, some "/app"⟩
    let request : Request := { uri := .originForm ⟨"/app/a%20b/%252e%3F%23%22%5C%C3%A9", none⟩ }
    let response := (site.respond (t.disk []) request).1
    Uri.parse (site.urlOf ["a b".toList, name]) = .ok request.uri ∧
    response.status = 200 ∧ Body.delivered (response.body.polls 1).1 = [60, 61] := by
  intro name t site request response
  have hnames : ∀ s ∈ ["a b".toList, name], s ≠ [] ∧ s ≠ ['.'] ∧ s ≠ ['.', '.'] ∧ '/' ∉ s ∧ '\x00' ∉ s := by
    decide
  have hfile : t.HoldsFile ["www"] (["a b".toList, name].map String.ofList) [60, 61] 0 :=
    ⟨by decide +kernel, by decide +kernel, by decide +kernel⟩
  have hmount : site.HasWritableMount := by
    rintro start ⟨⟩
    exact ⟨by decide, List.all_eq_true.1 (by decide)⟩
  have hurl : Uri.parse (site.urlOf ["a b".toList, name]) = .ok request.uri := by decide +kernel
  have hroot : t.locate [] site.assets.root = .ok ["www"] := by decide +kernel
  obtain ⟨uri, hparse, hreached⟩ := respond_reachable hroot (List.cons_ne_nil _ _) hnames hfile
    (by decide +kernel) (by decide +kernel) hmount (by decide +kernel)
  have huri : request.uri = uri := by
    rw [hurl] at hparse
    exact Except.ok.inj hparse
  obtain ⟨hstatus, -, -, hdata⟩ := hreached request huri ⟨by decide, rfl, rfl, rfl⟩
  exact ⟨hurl, hstatus, (hdata 1).1 (by decide +kernel)⟩

end Site

end SinglePage
