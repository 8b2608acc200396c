/-
The two ways to the root document. It is sent for every path that names no file, and it is a file among the
assets itself. With valid settings both lead to the same bytes: the canonical path that the name of the root
document stands for names a file, and a plain request for it is answered with all of it, however the settings
spell the name, and whatever links it leads through (`respond_rootDocument`). What can be read need not be a
file, though: a root document that is a device is sent, but not found (`rootDocument_of_device`).
-/
import SinglePage.Proofs.AssetTree.RootDocument
import SinglePage.Proofs.Site.Failure
import SinglePage.Proofs.Site.Framing
import SinglePage.Proofs.Site.Reachability

namespace SinglePage

open DiskPath FileTree RequestPath

/-- An answer sends data as a whole, and nothing but that is told or logged. -/
structure SendsWhole (answer : Response LoggedBody × List LogLine) (data : Bytes) : Prop where
  status : answer.1.status = 200
  length : answer.1.header? "content-length" = some (toString data.length)
  body : answer.1.body.Delivers data
  errors : answer.2 = []

namespace Site

/-! ## The two branches -/

section Branches

variable {site : Site} {disk : Disk} {request : Request} {path : String} {document : Bytes} {file : OpenFile}
  {modified : Nat}

/-- A path that names no file leads to the root document. -/
theorem sendsWhole_of_missing (henter : site.enter request = .ok request)
    (hpath : canonicalize request.uri.path = .ok path) (hscript : path ≠ scriptPath)
    (hlookup : site.assets.lookup disk path = .ok .missing)
    (hdoc : site.assets.readIndex disk = .ok document) :
    SendsWhole (site.respond disk request) document ∧
      (site.respond disk request).1.body.inner = .whole document := by
  rw [respond_of_serve henter (serve_missing hpath hscript hlookup hdoc), Response.sent_ofData]
  exact ⟨⟨rfl, rfl, LoggedBody.delivers_whole .., rfl⟩, rfl⟩

/-- A plain request for a file is answered with the file, if the service of files opens it by the path by
which it is found. -/
theorem sendsWhole_of_file {found : String} (henter : site.enter request = .ok request)
    (hplain : request.IsPlain) (hpath : canonicalize request.uri.path = .ok path) (hscript : path ≠ scriptPath)
    (hlookup : site.assets.lookup disk path = .ok (.file found))
    (hloc : FileService.location? site.assets.root (fileRequest request path).uri.path =
      some (DiskPath.join "." found))
    (hopen : disk (DiskPath.join "." found) = .ok (.file (.ok file) modified)) :
    SendsWhole (site.respond disk request) file.data ∧
      (site.respond disk request).1.body.inner = .file file.data := by
  have hfile := FileService.respond_of_isPlain (hplain.fileRequest path) hloc hopen
  rw [respond_of_serve henter (serve_file hpath hscript hlookup), hfile]
  refine ⟨⟨?_, Response.sent_length_given rfl, ?_, rfl⟩, ?_⟩
  · rw [Response.sent_status]
  · rw [Response.sent_body]
    exact LoggedBody.delivers_file ..
  · rw [Response.sent_body]

/-- Of a file system, a plain request for a file by its canonical path is answered with the file, unless './' in
front of its path makes that too long to be opened. -/
theorem respond_of_file {t : FileTree} {here : Location} {ns : List Segment}
    (henter : site.enter request = .ok request) (hplain : request.IsPlain)
    (hrequest : request.uri.path = encode (join ns)) (hquery : request.uri.query? = none)
    (ho : ∀ s ∈ ns, IsOrdinary s) (hne : ns ≠ []) (hscript : join ns ≠ scriptPath)
    (hwritten : (encode (join ns)).utf8ByteSize ≤ Target.maxSize)
    (hplace : t.disk here (site.assets.location (join ns)) = .ok (.file (.ok file) modified)) :
    let looked := DiskPath.join "." (site.assets.location (join ns))
    (looked.utf8ByteSize < maxPath →
      SendsWhole (site.respond (t.disk here) request) file.data ∧
        (site.respond (t.disk here) request).1.body.inner = .file file.data) ∧
    (maxPath ≤ looked.utf8ByteSize →
      site.respond (t.disk here) request =
        (⟨500, [("content-length", "0")], ⟨.empty, some (.of request 500)⟩⟩, [])) := by
  intro looked
  have hcanonical : canonicalize request.uri.path = .ok (join ns) := by
    rw [hrequest]
    exact canonicalize_encode ⟨ns, ho, rfl⟩
  have hlookup := AssetTree.lookup_of_file (mt (relative_eq_empty_iff ho).1 hne) hplace
  have hloc : FileService.location? site.assets.root (fileRequest request (join ns)).uri.path = some looked := by
    rw [fileRequest_path_of_size_le (head?_join ns) hrequest hquery hwritten,
      FileService.location?_encode ho, FileService.locationOf_eq ho hne]
  have hdot := disk_dot_join_eq hplace
  refine ⟨fun hshort => ?_, fun hlong => ?_⟩
  · exact sendsWhole_of_file henter hplain hcanonical hscript hlookup hloc
      (hdot.trans (if_neg (Nat.not_le.2 hshort)))
  · refine respond_of_failsWithFile ⟨request, join ns, ⟨henter, hcanonical, hscript, _, hlookup⟩, ?_⟩
    exact (FileService.fails_iff_of_tree hloc hplace).2 (.inl hlong)

end Branches

/-! ## Both lead to the same -/

/-- The path of the root document can be written in a URI. -/
theorem utf8ByteSize_encode_rootDocument {t : FileTree} {here : Location} {root p path : String} {found : Found}
    (hfile : t.disk here (DiskPath.join root p) = .ok found)
    (hsize : path.utf8ByteSize ≤ ("/" ++ p).utf8ByteSize) :
    (encode path).utf8ByteSize ≤ Target.maxSize := by
  -- an escape triples a byte, and three times the limit of the system is far below that of a URI
  have hjoin : (DiskPath.join root p).utf8ByteSize < 4096 := utf8ByteSize_lt_of_disk hfile
  have hp := utf8ByteSize_le_join root p
  have hencode := utf8ByteSize_encode_le path
  rw [String.utf8ByteSize_append, show "/".utf8ByteSize = 1 from rfl] at hsize
  show _ ≤ 65534
  omega

/-- With valid settings the two ways to the root document agree. Where it can be read, the canonical path that
its name stands for behind a slash is the path of a URI, and names a file if the root document is one. A plain
request for it is then answered with the root document as the file that it is, unless the service of files puts
'./' in front of its path and that makes it too long to be opened; it never does so below an absolute directory.
A root document that is no file is not found by its own path either. A request for a path that names no file is
answered with the same bytes. -/
theorem respond_rootDocument {layers : List Settings.Layer} {s : Settings} {t : FileTree} {here : Location}
    {assets : AssetTree} {document : Bytes} {path : String} (hs : Settings.ofLayers layers = .ok s)
    (hopened : AssetTree.openAt (t.disk here) s.staticDir s.indexFile = .ok assets)
    (hdoc : assets.readIndex (t.disk here) = .ok document)
    (hpath : canonicalize (encode ("/" ++ s.indexFile)) = .ok path) (hscript : path ≠ scriptPath)
    (script : EnvModule) :
    let site : Site := ⟨assets, script, none⟩
    let looked := DiskPath.join "." (assets.location path)
    Uri.parse (encode path) = .ok (.originForm ⟨encode path, none⟩) ∧
    (assets.HasIndexFile (t.disk here) →
      assets.lookup (t.disk here) path = .ok (.file (assets.location path)) ∧
      ∀ request : Request, request.uri.path = encode path → request.uri.query? = none → request.IsPlain →
        (looked.utf8ByteSize < maxPath →
          SendsWhole (site.respond (t.disk here) request) document ∧
            (site.respond (t.disk here) request).1.body.inner = .file document) ∧
        (maxPath ≤ looked.utf8ByteSize →
          site.respond (t.disk here) request =
            (⟨500, [("content-length", "0")], ⟨.empty, some (.of request 500)⟩⟩, []))) ∧
    (isAbsolute s.staticDir = true → looked.utf8ByteSize < maxPath) ∧
    (¬ assets.HasIndexFile (t.disk here) → assets.lookup (t.disk here) path = .ok .missing) ∧
    (∀ (request : Request) (other : String), canonicalize request.uri.path = .ok other → other ≠ scriptPath →
      assets.lookup (t.disk here) other = .ok .missing →
      SendsWhole (site.respond (t.disk here) request) document ∧
        (site.respond (t.disk here) request).1.body.inner = .whole document) := by
  intro site looked
  obtain ⟨-, rfl⟩ := AssetTree.openAt_ok hopened
  obtain ⟨found, hindex, hfound⟩ := AssetTree.readIndex_ok hdoc
  have hnodir : found ≠ .directory := by
    rintro rfl
    rcases hfound with ⟨_, _, h⟩ | h <;> cases h
  obtain ⟨hp, hup⟩ := relative_of_names (Settings.validate_indexFile (Settings.ofLayers_ok hs))
  obtain ⟨hrel, hsize, hplace⟩ := AssetTree.disk_location_of_relative hp hup hindex hnodir hpath
  have hwritten := utf8ByteSize_encode_rootDocument hindex hsize
  obtain ⟨ns, ho, rfl⟩ := canonicalize_isCanonical hpath
  have hne : ns ≠ [] := fun h => hrel ((relative_eq_empty_iff ho).2 h)
  refine ⟨?_, fun hfile => ?_, fun habs => ?_, fun hno => ?_, fun request other hother hnoScript hmissing => ?_⟩
  · exact Uri.parse_path (head?_encode (head?_join ns)) (isPathChar_encode _) hwritten
  · obtain ⟨movable, modified, rfl⟩ := hfound.resolve_right (by
      rintro rfl
      obtain ⟨opened, modified, h⟩ := hfile
      cases hindex.symm.trans h)
    refine ⟨AssetTree.lookup_of_file hrel hplace, fun request hrequest hquery hplain => ?_⟩
    have henter : site.enter request = .ok request := rfl
    have hanswer := respond_of_file henter hplain hrequest hquery ho hne hscript hwritten hplace
    exact hanswer
  · have habsolute : isAbsolute (site.assets.location (join ns)) = true :=
      (isAbsolute_join (isAbsolute_relative ho)).trans habs
    rw [show looked = site.assets.location (join ns) from if_pos habsolute]
    exact utf8ByteSize_lt_of_disk hplace
  · obtain rfl : found = .device document := hfound.resolve_left (by
      rintro ⟨movable, modified, rfl⟩
      exact hno ⟨_, _, hindex⟩)
    exact AssetTree.lookup_of_device hrel hplace
  · exact sendsWhole_of_missing rfl hother hnoScript hmissing hdoc

/-- The root document is named by way of a link, with a dot and two slashes, below the directory that the
settings have by themselves. It is requested by its canonical path, with an escape for the '%' of its name,
and by another path. -/
theorem respond_rootDocument_linked :
    let t : FileTree := ⟨[(["build"], .directory), (["build", "pages"], .link "p"), (["build", "p"], .directory),
      (["build", "p", "50%.html"], .file [60, 61] 0)]⟩
    let site : Site := ⟨⟨"build", "build/pages/.//50%.html"⟩, .empty, none⟩
    let request : Request := { uri := .originForm ⟨"/pages/50%25.html", none⟩ }
    let other : Request := { request with uri := .originForm ⟨"/pages/", some "q"⟩ }
    (site.respond (t.disk []) request).1.body.inner = .file [60, 61] ∧
    SendsWhole (site.respond (t.disk []) request) [60, 61] ∧
    SendsWhole (site.respond (t.disk []) other) [60, 61] := by
  intro t site request other
  have hs : Settings.ofLayers [.override ⟨"index_file", []⟩ (.text "pages/.//50%.html")] =
      .ok { indexFile := "pages/.//50%.html" } := by decide +kernel
  have hopened : AssetTree.openAt (t.disk []) "build" "pages/.//50%.html" = .ok site.assets := by
    decide +kernel
  have hdoc : site.assets.readIndex (t.disk []) = .ok [60, 61] := by decide +kernel
  have hpath : canonicalize (encode ("/" ++ "pages/.//50%.html")) = .ok "/pages/50%.html" := by decide +kernel
  have hindex : site.assets.HasIndexFile (t.disk []) := ⟨.ok ⟨[60, 61], true⟩, 0, by decide +kernel⟩
  obtain ⟨-, hfile, -, -, hother⟩ := respond_rootDocument hs hopened hdoc hpath (by decide) .empty
  obtain ⟨-, hsent⟩ := hfile hindex
  obtain ⟨hwhole, hinner⟩ :=
    (hsent request (by decide +kernel) rfl ⟨by decide, rfl, rfl, rfl⟩).1 (by decide +kernel)
  exact ⟨hinner, hwhole, (hother other "/pages" (by decide +kernel) (by decide) (by decide +kernel)).1⟩

/-- A root document that is a link to the device without data can be read, but its path does not lead to a
file. -/
theorem rootDocument_of_device :
    let t : FileTree := ⟨[(["build"], .directory), (["build", "index.html"], .link "/dev/null"),
      (["dev"], .directory), (["dev", "null"], .null)]⟩
    let assets : AssetTree := ⟨"build", "build/index.html"⟩
    Settings.ofLayers [] = .ok {} ∧ AssetTree.openAt (t.disk []) "build" "index.html" = .ok assets ∧
    assets.readIndex (t.disk []) = .ok [] ∧
    canonicalize (encode ("/" ++ "index.html")) = .ok "/index.html" ∧ "/index.html" ≠ scriptPath ∧
    ¬ ∃ found, assets.lookup (t.disk []) "/index.html" = .ok (.file found) := by
  intro t assets
  have hmissing : assets.lookup (t.disk []) "/index.html" = .ok .missing := by decide +kernel
  refine ⟨by decide +kernel, by decide +kernel, by decide +kernel, by decide +kernel, by decide, ?_⟩
  rintro ⟨found, hfound⟩
  cases hmissing.symm.trans hfound

end Site

end SinglePage
