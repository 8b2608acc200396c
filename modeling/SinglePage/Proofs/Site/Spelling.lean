/-
A file is found by its path, and by its path again by the service of files. The site asks the service
for the canonical path, however the request spells it, so all spellings are answered alike
(`respond_spelling`). Where there is no place for the canonical path in a URI, because of its escapes
and a long query, the service sees the path as it is spelled, and refuses it if it climbs.
-/
import SinglePage.Proofs.AssetTree.Lookup
import SinglePage.Proofs.FileService.Location
import SinglePage.Proofs.FileService.Outcome
import SinglePage.Proofs.Site.Serving

namespace SinglePage

open DiskPath FileTree RequestPath

namespace FileService

/-! ## What the service of files looks at -/

section Service

variable {disk : Disk} {root : String}

/-- The path of a request counts for the place only that it stands for. -/
theorem respond_congr_request {request request' : Request}
    (hloc : location? root request.uri.path = location? root request'.uri.path)
    (hmethod : request.method = request'.method) (hheaders : request.headers = request'.headers) :
    respond disk root request = respond disk root request' := by
  obtain ⟨method, uri, version, headers, client⟩ := request
  obtain ⟨method', uri', version', headers', client'⟩ := request'
  subst hmethod hheaders
  unfold respond
  rw [hloc]
  rfl

/-- Where there is a file, or a path too long to be looked up, the answer is not that there is none. -/
theorem respond_status_ne_404 {request : Request} {path : String} {file : OpenFile} {modified : Nat}
    (hloc : location? root request.uri.path = some path)
    (hdisk : disk path = .ok (.file (.ok file) modified) ∨ disk path = .error .nameTooLong) :
    (respond disk root request).status ≠ 404 := by
  rcases hdisk with hd | hd
  · have hopen := Disk.openFile_eq_some_iff.2 hd
    cases hcondition : conditionStatus? request modified with
    | some status =>
      unfold respond
      simp only [hloc, hopen, hcondition]
      show status ≠ 404
      rcases conditionStatus?_eq_some hcondition with rfl | rfl <;> decide
    | none =>
      rw [respond_of_openFile hloc hopen hcondition]
      intro h
      have hs := sendFile_status request path file modified
      rw [h] at hs
      exact absurd hs (by decide)
  · rw [respond_of_unopened hloc (Disk.openFile_eq_error_iff.2 (.inl hd))]
    decide

/-- The service looks for names by the path by which they are looked up, seen from the working
directory. -/
theorem locationOf_eq {ns : List Segment} (ho : ∀ s ∈ ns, IsOrdinary s) (hne : ns ≠ []) (tree : AssetTree) :
    locationOf tree.root ns = DiskPath.join "." (tree.location (RequestPath.join ns)) := by
  rw [locationOf, if_neg hne, ← relative_join ho]
  exact join_dot_join (isAbsolute_relative ho)

end Service

end FileService

namespace Site

/-! ## The request for a file -/

/-- The plain request for a canonical path: for the path as it is written, without a query. -/
def plainRequest (request : Request) (path : String) : Request :=
  { request with
    uri := .originForm ⟨encode path, none⟩
    method := if request.method = .head then .head else .get }

/-- There is no place for a canonical path in front of the query of a request. -/
def TooLongToWrite (request : Request) (path : String) : Prop :=
  Target.maxSize < (Target.render (encode path) request.uri.query?).utf8ByteSize

/-- The canonical path takes the place of the one that is spelled, if there is a place for it. -/
theorem fileRequest_path {request : Request} {path : String} (hs : path.toList.head? = some '/')
    (hquery : request.uri.HasReadQuery) (hform : ∀ a, request.uri ≠ .authorityForm a) :
    (¬ TooLongToWrite request path → (fileRequest request path).uri.path = encode path) ∧
    (TooLongToWrite request path → (fileRequest request path).uri = request.uri) := by
  have hw := Uri.withPath?_eq hquery (head?_encode hs) (isPathChar_encode path)
  have hne : encode path ≠ "" := by
    intro he
    have := head?_encode hs
    rw [he] at this
    cases this
  constructor
  · intro h
    obtain ⟨v, hv, hvp, -, -⟩ := Uri.exists_withTarget? hform (t := ⟨encode path, request.uri.query?⟩) hne
    rw [if_pos (not_lt.1 h), hv] at hw
    unfold fileRequest
    rw [hw]
    exact hvp
  · intro h
    rw [if_neg (not_le.2 h)] at hw
    unfold fileRequest
    rw [hw]
    rfl

/-- The service of files looks where it looks for the canonical path, unless it sees the path as it is
spelled, and refuses it. -/
theorem location?_fileRequest {request : Request} {path : String}
    (hpath : canonicalize request.uri.path = .ok path)
    (hquery : request.uri.HasReadQuery) (hform : ∀ a, request.uri ≠ .authorityForm a) (root : String) :
    (¬ (TooLongToWrite request path ∧ FileService.Refuses request.uri.path) →
      FileService.location? root (fileRequest request path).uri.path =
        FileService.location? root (encode path)) ∧
    (TooLongToWrite request path ∧ FileService.Refuses request.uri.path →
      FileService.location? root (fileRequest request path).uri.path = none) := by
  obtain ⟨ns, ho, rfl, hrefused, hfollowed⟩ := FileService.location?_of_canonicalize hpath root
  obtain ⟨hwritten, hspelled⟩ := fileRequest_path (head?_join ns) hquery hform
  constructor
  · intro h
    by_cases hl : TooLongToWrite request (join ns)
    · rw [hspelled hl, FileService.location?_encode ho]
      exact hfollowed fun hr => h ⟨hl, hr⟩
    · rw [hwritten hl]
  · rintro ⟨hl, hr⟩
    rw [hspelled hl]
    exact hrefused hr

/-! ## Spellings -/

/-- A file is answered as it is answered by the service of files to the plain request for its
canonical path, whatever the spelling, unless there is no place for the canonical path and the service
refuses the spelling: then the answer is that there is no file, although there is. -/
theorem respond_spelling {site : Site} {t : FileTree} {here : Location} {text raw path found : String}
    {request : Request} (huri : Uri.parse text = .ok request.uri) (hmount : site.HasRootedMount)
    (hbelow : site.below? request.uri.path = some raw) (hpath : canonicalize raw = .ok path)
    (hscript : path ≠ scriptPath) (hfile : site.assets.lookup (t.disk here) path = .ok (.file found)) :
    (¬ (TooLongToWrite request path ∧ FileService.Refuses raw) →
      site.respond (t.disk here) request =
        ((FileService.respond (t.disk here) site.assets.root (plainRequest request path)).sent request, [])) ∧
    (TooLongToWrite request path ∧ FileService.Refuses raw →
      site.respond (t.disk here) request = ((Response.ofStatus 404).sent request, [])) ∧
    (FileService.respond (t.disk here) site.assets.root (plainRequest request path)).status ≠ 404 := by
  have hread := Uri.parse_isRead huri
  obtain ⟨uri, he, rfl, hq⟩ := enter_below hread hmount hbelow
  let inner : Request := { request with uri }
  obtain ⟨ns, ho, rfl⟩ := canonicalize_isCanonical hpath
  obtain ⟨hrel, opened, modified, hdata⟩ := AssetTree.lookup_file hfile
  obtain ⟨file, rfl⟩ := FileTree.opened_of_disk hdata
  have hserve := respond_of_serve he (serve_file hpath hscript hfile)
  have hplain : (plainRequest request (join ns)).uri.path = encode (join ns) := Uri.path_originForm_none _
  have hquery : ∀ q, inner.uri.query? = some q → ∀ c ∈ q.toList, Target.isQueryChar c = true :=
    fun q h => hread.query q (hq ▸ h)
  have hform : ∀ a, inner.uri ≠ .authorityForm a := by
    intro a ha
    -- an authority alone reads as the root, which is no file
    have hroot : canonicalize "" = .ok "/" := by decide
    rw [show uri = _ from ha, show (Uri.authorityForm a).path = "" from rfl, hroot, Except.ok.injEq] at hpath
    exact hrel (hpath ▸ rfl)
  have hlong : TooLongToWrite inner (join ns) ↔ TooLongToWrite request (join ns) := by
    unfold TooLongToWrite
    rw [show inner.uri.query? = _ from hq]
  have hinner : canonicalize inner.uri.path = .ok (join ns) := hpath
  obtain ⟨hsame, hnone⟩ := location?_fileRequest hinner hquery hform site.assets.root
  rw [hlong] at hsame hnone
  refine ⟨fun h => ?_, fun h => ?_, ?_⟩
  · rw [hserve, FileService.respond_congr_request ((hsame h).trans (congrArg _ hplain.symm)) rfl rfl]
  · rw [hserve, FileService.respond, hnone h]
  · have hne : ns ≠ [] := fun h => hrel ((relative_eq_empty_iff ho).2 h)
    have hdisk := disk_dot_join hdata
    rw [← FileService.locationOf_eq ho hne] at hdisk
    refine FileService.respond_status_ne_404 ?_ hdisk
    rw [hplain]
    exact FileService.location?_encode ho site.assets.root

/-! ## A query that leaves no room -/

/-- A query of so many bytes. -/
def queryOf (n : Nat) : String := String.ofList (List.replicate n 'q')

theorem utf8ByteSize_render_queryOf (path : String) (n : Nat) :
    (Target.render path (some (queryOf n))).utf8ByteSize = path.utf8ByteSize + (n + 1) := by
  have hsize : (queryOf n).utf8ByteSize = n := (utf8ByteSize_ofList_replicate n 'q').trans (Nat.mul_one n)
  rw [Target.utf8ByteSize_render, Option.map_some, Option.getD_some, hsize]

/-- With such a query, a path that goes into a directory and out of it again can be asked for. -/
theorem parse_queryOf {n : Nat} (h : n ≤ 65515) :
    Uri.parse (Target.render "/app/a/../éééé" (some (queryOf n))) =
      .ok (.originForm ⟨"/app/a/../éééé", some (queryOf n)⟩) := by
  have hchars : ∀ c ∈ (queryOf n).toList, Target.isQueryChar c = true := by
    intro c hc
    rw [queryOf, String.toList_ofList] at hc
    rw [List.eq_of_mem_replicate hc]
    decide
  have hpath : ∀ c ∈ "/app/a/../éééé".toList, Target.isPathChar c = true := List.all_eq_true.1 (by decide)
  have hhead : "/app/a/../éééé".toList.head? = some '/' := by decide
  have hsize : "/app/a/../éééé".utf8ByteSize = 18 := by decide
  refine Uri.parse_render (t := ⟨"/app/a/../éééé", some (queryOf n)⟩) ⟨hpath, ?_⟩ hhead ?_
  · rintro q ⟨⟩
    exact hchars
  · show (Target.render "/app/a/../éééé" (some (queryOf n))).utf8ByteSize ≤ 65534
    rw [utf8ByteSize_render_queryOf]
    omega

/-- The file is there, but the escapes of its path do not fit into the URI, and the answer is 404. -/
theorem respond_spelling_longQuery :
    let t : FileTree := ⟨[(["www"], .directory), (["www", "éééé"], .file [60] 0)]⟩
    let site : Site := ⟨⟨"/www", "/www/index.html"⟩, .empty, some "/app"⟩
    let request : Request := { uri := .originForm ⟨"/app/a/../éééé", some (queryOf 65515)⟩ }
    (site.respond (t.disk []) request).1.status = 404 := by
  intro t site request
  have hpath : request.uri.path = "/app/a/../éééé" := by
    show (Uri.originForm ⟨"/app/a/../éééé", some (queryOf 65515)⟩).path = _
    rw [Uri.path_originForm]
    exact if_neg fun h => absurd h.1 (by decide)
  have hlong : TooLongToWrite request "/éééé" := by
    have hencoded : (encode "/éééé").utf8ByteSize = 25 := by decide +kernel
    show 65534 < (Target.render (encode "/éééé") (some (queryOf 65515))).utf8ByteSize
    rw [utf8ByteSize_render_queryOf]
    omega
  have hrefused : FileService.Refuses "/a/../éééé" := ⟨"a/../éééé", by decide +kernel, by decide +kernel⟩
  have huri : Uri.parse (Target.render "/app/a/../éééé" (some (queryOf 65515))) = .ok request.uri :=
    parse_queryOf le_rfl
  have hmount : site.HasRootedMount := by
    rintro start ⟨⟩
    decide
  have hbelow : site.below? request.uri.path = some "/a/../éééé" := by
    rw [hpath]
    decide +kernel
  have hcanonical : canonicalize "/a/../éééé" = .ok "/éééé" := by decide +kernel
  have hfile : site.assets.lookup (t.disk []) "/éééé" = .ok (.file "/www/éééé") := by decide +kernel
  rw [(respond_spelling huri hmount hbelow hcanonical (by decide) hfile).2.1 ⟨hlong, hrefused⟩]
  rfl

end Site

end SinglePage
