/-
The root document makes sense of all paths that stand for no file. However such a path comes to stand
for none, it is answered with the root document (`respond_fallback`), with one exception: a path, or a
name on the way, that is too long for the system is an internal error.
-/
import SinglePage.Proofs.AssetTree.Lookup
import SinglePage.Proofs.Site.Serving

namespace SinglePage.Site

open FileTree RequestPath

/-- A request below the mount for no file and not for the script is answered with the root document,
unless the path is too long, which is an internal error. -/
theorem respond_fallback {site : Site} {t : FileTree} {here l : Location} {text raw path : String}
    {request : Request} {document : Bytes} (huri : Uri.parse text = .ok request.uri)
    (hmount : site.HasRootedMount) (hl : t.locate here site.assets.root = .ok l)
    (hno : NoLinks (t.below l)) (hdoc : site.assets.readIndex (t.disk here) = .ok document)
    (hbelow : site.below? request.uri.path = some raw) (hpath : canonicalize raw = .ok path)
    (hscript : path ≠ scriptPath)
    (hfile : ∀ e ∈ t.below l (names path), e.isFile = false) :
    (¬ site.assets.TooLong t l path →
      site.respond (t.disk here) request =
        (⟨200, [("content-length", toString document.length), ("content-type", "text/html; charset=utf-8")],
          ⟨.whole document, some (.of request 200)⟩⟩, [])) ∧
    (site.assets.TooLong t l path →
      site.respond (t.disk here) request =
        (⟨500, [("content-length", "21"), ("content-type", "text/plain; charset=utf-8")],
          ⟨.whole (Bytes.ofText "Internal server error"), some (.of request 500)⟩⟩,
          [⟨.error, "spa_server::error", "failed to open file",
            [("error", .text "File name too long (os error 36)")]⟩])) := by
  obtain ⟨uri, he, rfl, -⟩ := enter_below (Uri.parse_isRead huri) hmount hbelow
  obtain ⟨ns, ho, rfl⟩ := canonicalize_isCanonical hpath
  constructor
  · intro hshort
    have hlookup := AssetTree.lookup_missing hl hno ho hshort hfile
    rw [respond_of_serve he (serve_missing hpath hscript hlookup hdoc), Response.sent_ofData]
  · intro hlong
    have hlookup := AssetTree.lookup_tooLong hl hno ho hlong
    have hmessage : SystemError.nameTooLong.message = "File name too long (os error 36)" := by decide
    have hserve : site.serve (t.disk here) { request with uri } =
        .error (.internal "failed to open file" .nameTooLong) := serve_error hpath hscript hlookup
    rw [respond_of_serve_error he hserve, ServeError.sent_internal, ServeError.log, hmessage]

/-! ## A name that is too long -/

/-- A name of 256 bytes. -/
def longName : Segment := List.replicate 256 'a'

theorem isOrdinary_longName : ∀ s ∈ [longName], IsOrdinary s := by
  intro s hs
  rw [List.mem_singleton.1 hs]
  exact ⟨List.cons_ne_nil _ _, by decide +kernel, by decide +kernel, by decide +kernel, by decide +kernel⟩

/-- It can be asked for all the same. -/
theorem parse_longName :
    Uri.parse (encode (join [longName])) = .ok (.originForm ⟨encode (join [longName]), none⟩) := by
  have hraw : encode (join [longName]) = String.ofList ('/' :: List.replicate 256 'a') := by
    rw [encode, toList_join, List.intercalate_singleton]
    exact congrArg String.ofList (by decide +kernel)
  have hsize : (encode (join [longName])).utf8ByteSize ≤ Target.maxSize := by
    rw [hraw, utf8ByteSize_ofList_cons, utf8ByteSize_ofList_replicate]
    decide
  exact Uri.parse_path (head?_encode (head?_join _)) (isPathChar_encode _) hsize

/-- A name that is too long is no file of any directory, but the root document does not answer it. -/
theorem respond_fallback_longName :
    let t : FileTree := ⟨[(["www"], .directory), (["www", "index.html"], .file [60] 0)]⟩
    let site : Site := ⟨⟨"/www", "/www/index.html"⟩, .empty, none⟩
    let request : Request := { uri := .originForm ⟨encode (join [longName]), none⟩ }
    (site.respond (t.disk []) request).1.status = 500 := by
  intro t site request
  have hname := names_join isOrdinary_longName
  have hscript : join [longName] ≠ scriptPath := by
    rw [ne_eq, ← String.toList_inj, toList_join]
    decide +kernel
  have hfile : ∀ e ∈ t.below ["www"] (names (join [longName])), e.isFile = false := by
    rw [hname, show t.below ["www"] _ = none by decide +kernel]
    exact fun _ h => nomatch h
  have hlong : site.assets.TooLong t ["www"] (join [longName]) := by
    unfold AssetTree.TooLong
    rw [hname]
    refine ⟨List.cons_ne_nil _ _, .inr ⟨[], _, [], rfl, ?_, fun p hp => ?_⟩⟩
    · rw [longName, utf8ByteSize_ofList_replicate]
      decide
    · rw [List.prefix_nil.1 hp]
      decide
  have huri : Uri.parse (encode (join [longName])) = .ok request.uri := parse_longName
  have hmount : site.HasRootedMount := fun _ h => nomatch h
  have hl : t.locate [] site.assets.root = .ok ["www"] := by decide +kernel
  have hlinks : ∀ e ∈ t.entries, ∀ target, e.2 ≠ .link target := by simp [t]
  have hdoc : site.assets.readIndex (t.disk []) = .ok [60] := by decide +kernel
  have hbelow : site.below? request.uri.path = some (encode (join [longName])) :=
    congrArg some (Uri.path_originForm_none _)
  have hpath : canonicalize (encode (join [longName])) = .ok (join [longName]) :=
    canonicalize_encode ⟨_, isOrdinary_longName, rfl⟩
  rw [(respond_fallback huri hmount hl (noLinks_below hlinks _) hdoc hbelow hpath hscript hfile).2 hlong]

end SinglePage.Site
