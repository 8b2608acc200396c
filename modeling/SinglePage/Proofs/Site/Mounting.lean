/-
A mount is a renaming of paths. Below a mount, a request is answered as the same request with what
follows the mount as its path is answered at the root, wherever the mount ends in the path and whatever
the form of the URI; only the access log tells the two apart, since it names the path as it came
(`respond_mounted`). A request that lies elsewhere is answered with an empty 404.
-/
import SinglePage.Proofs.Site.Answers

namespace SinglePage

/-! ## Another path -/

/-- The same request for another path. -/
def Request.withPath (request : Request) (path : String) : Request :=
  { request with uri := request.uri.replacePath path }

/-- What is sent does not depend on the path, but for the line in the access log. -/
theorem SameButFor.sent_withPath (request : Request) (path : String) (response : Response Body)
    (log : List LogLine) :
    SameButFor "path" request.uri.path (response.sent request, log)
      (response.sent (request.withPath path), log) :=
  .sent (fun _ _ => by simp [AccessEvent.line, LogLine.withField, AccessEvent.of, Request.withPath,
    Request.header?]) response log

namespace Site

variable {start text : String} {request : Request} {rest : List Char}

/-- Below a mount, a request is answered as the same request with what follows the mount as its path is
answered at the root, but for the path in the access log. -/
theorem respond_below (hstart : start.toList.head? = some '/') (hread : request.uri.IsRead)
    (hpath : request.uri.path.toList = start.toList ++ rest) (assets : AssetTree) (script : EnvModule)
    (disk : Disk) :
    SameButFor "path" request.uri.path (respond ⟨assets, script, some start⟩ disk request)
      (respond ⟨assets, script, none⟩ disk (request.withPath (Mount.rooted rest))) := by
  have henter : enter ⟨assets, script, some start⟩ request = .ok (request.withPath (Mount.rooted rest)) :=
    Mount.enter_replacePath hstart hread hpath
  have hroot : enter ⟨assets, script, none⟩ (request.withPath (Mount.rooted rest)) =
      .ok (request.withPath (Mount.rooted rest)) := rfl
  -- the mount is all that the two sites differ in, and nothing behind `enter` looks at it
  have hserve : serve ⟨assets, script, some start⟩ disk (request.withPath (Mount.rooted rest)) =
      serve ⟨assets, script, none⟩ disk (request.withPath (Mount.rooted rest)) := rfl
  cases hs : serve ⟨assets, script, none⟩ disk (request.withPath (Mount.rooted rest)) with
  | ok response =>
    rw [respond_of_serve henter (hserve.trans hs), respond_of_serve hroot hs]
    exact .sent_withPath ..
  | error e =>
    rw [respond_of_serve_error henter (hserve.trans hs), respond_of_serve_error hroot hs]
    exact .sent_withPath ..

/-- Outside of a mount there is nothing. -/
theorem enter_outside (hpath : ¬ start.toList <+: request.uri.path.toList) (assets : AssetTree)
    (script : EnvModule) : enter ⟨assets, script, some start⟩ request = .error (.ofStatus 404) := by
  have hrest : Mount.rest? start request.uri.path = none := by
    rw [Mount.rest?, if_neg]
    rwa [List.isPrefixOf_iff_prefix]
  show Mount.enter start request = _
  unfold Mount.enter
  rw [hrest]

/-- A mount renames paths and does nothing else. A request whose path starts with the mount is answered
as the same request with what follows the mount, with a slash in front, as its path is answered at the
root: scheme, authority and query are its own, and only the access log names the path as it came. Any
other request is answered with an empty 404, whatever the disk. It never happens that a path below the
mount has no place in the URI, which would be a 400. -/
theorem respond_mounted (hstart : start.toList.head? = some '/') (huri : Uri.parse text = .ok request.uri)
    (assets : AssetTree) (script : EnvModule) :
    (∀ rest, request.uri.path.toList = start.toList ++ rest →
      ((request.withPath (Mount.rooted rest)).uri.path = Mount.rooted rest ∧
        (request.withPath (Mount.rooted rest)).uri.scheme? = request.uri.scheme? ∧
        (request.withPath (Mount.rooted rest)).uri.authority? = request.uri.authority? ∧
        (request.withPath (Mount.rooted rest)).uri.query? = request.uri.query?) ∧
      ∀ disk, SameButFor "path" request.uri.path (respond ⟨assets, script, some start⟩ disk request)
        (respond ⟨assets, script, none⟩ disk (request.withPath (Mount.rooted rest)))) ∧
    (¬ start.toList <+: request.uri.path.toList →
      ∀ disk, respond ⟨assets, script, some start⟩ disk request =
        (⟨404, [("content-length", "0")], ⟨.empty, some (.of request 404)⟩⟩, [])) ∧
    enter ⟨assets, script, some start⟩ request ≠ .error (.ofStatus 400) := by
  have hread := Uri.parse_isRead huri
  refine ⟨fun rest hpath => ⟨⟨?_, ?_, ?_, ?_⟩, ?_⟩, fun hpath disk => ?_, ?_⟩
  · exact Uri.path_replacePath (Mount.ne_authorityForm hstart hpath) (Mount.rooted_ne_empty rest)
  · exact Uri.scheme?_replacePath ..
  · exact Uri.authority?_replacePath ..
  · exact Uri.query?_replacePath ..
  · exact respond_below hstart hread hpath assets script
  · rw [respond_eq]
    unfold answer
    rw [enter_outside hpath]
    rfl
  · by_cases hpath : start.toList <+: request.uri.path.toList
    · obtain ⟨rest, hrest⟩ := hpath
      show Mount.enter start request ≠ _
      rw [Mount.enter_replacePath hstart hread hrest.symm]
      exact fun h => nomatch h
    · rw [enter_outside hpath]
      decide

/-- A mount may end within an escape of a whole URI with a query: what follows is a name, which is
answered with its file. -/
theorem respond_mounted_escape :
    let t : FileTree := ⟨[(["www"], .directory), (["www", "2e.js"], .file [60] 0)]⟩
    let assets : AssetTree := ⟨"/www", "/www/index.html"⟩
    let request : Request := { uri := .absoluteForm "http" "host" ⟨"/app%2e.js", some "v"⟩ }
    let inner : Request := { uri := .absoluteForm "http" "host" ⟨"/2e.js", some "v"⟩ }
    SameButFor "path" "/app%2e.js" (respond ⟨assets, .empty, some "/app%"⟩ (t.disk []) request)
      (respond ⟨assets, .empty, none⟩ (t.disk []) inner) := by
  intro t assets request inner
  have hstart : "/app%".toList.head? = some '/' := by decide
  have huri : Uri.parse "http://host/app%2e.js?v" = .ok request.uri := by decide +kernel
  have hpath : request.uri.path.toList = "/app%".toList ++ "2e.js".toList := by decide +kernel
  exact ((respond_mounted hstart huri assets .empty).1 _ hpath).2 (t.disk [])

end Site

end SinglePage
