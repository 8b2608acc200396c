/-
Which mounts can be reached. Valid settings may mount a site below any text with a slash in front and none
behind. If the text can stand in front of a path in a URI, it is a URI of its own, which leads to the root
document; if it cannot, because of its characters or its size, no request leads below the mount, and every
request is answered with an empty 404 (`respond_mountable`).
-/
import SinglePage.Proofs.Settings.Validation
import SinglePage.Proofs.Site.Branches
import SinglePage.Proofs.Site.Mounting

namespace SinglePage

/-! ## Texts in front of paths -/

/-- A text can stand in front of the path of a URI: it is made of characters that a path may hold, and is
not longer than a URI may be. -/
structure Uri.CanStartPath (start : String) : Prop where
  chars : ∀ c ∈ start.toList, Target.isPathChar c = true
  size : start.utf8ByteSize ≤ Target.maxSize

namespace Uri

variable {start : String} (hstart : start.toList.head? = some '/')

include hstart

/-- Such a text is a URI. -/
theorem CanStartPath.parse_eq (h : CanStartPath start) :
    parse start = .ok (.originForm ⟨start, none⟩) := parse_path hstart h.chars h.size

/-- What stands in front of the path of a URI can stand there. -/
theorem IsRead.canStartPath {uri : Uri} (hread : uri.IsRead) (hbehind : start.toList <+: uri.path.toList) :
    CanStartPath start := by
  obtain ⟨rest, hpath⟩ := hbehind
  refine ⟨fun c hc => hread.path c (hpath ▸ List.mem_append_left rest hc), ?_⟩
  have hform : ∀ a, uri ≠ .authorityForm a := @Mount.ne_authorityForm start hstart { uri } rest hpath.symm
  have hsize := hread.size_le hform
  rw [Target.utf8ByteSize_render, ← String.ofList_toList (s := uri.path), ← hpath, utf8ByteSize_ofList_append,
    String.ofList_toList] at hsize
  omega

end Uri

/-! ## Settings that mount a site -/

/-- Valid settings mount a site below a text with a slash in front. -/
theorem Settings.head?_mountPath {layers : List Layer} {s : Settings} {start : String}
    (hs : ofLayers layers = .ok s) (hmount : s.mountPath? = some start) : start.toList.head? = some '/' := by
  have hvalid := validate_ok_iff.1 (ofLayers_ok hs)
  unfold mountPath? at hmount
  split at hmount
  · cases hmount
  · cases hmount
    exact hvalid.basePath_head

/-- The root of the site is no file. -/
theorem AssetTree.lookup_slash (tree : AssetTree) (disk : Disk) : tree.lookup disk "/" = .ok .missing :=
  if_pos (by decide)

namespace Site

open RequestPath

/-- The root document is never said to be missing. -/
theorem status_sendIndex (site : Site) (disk : Disk) : (settle (site.sendIndex disk)).1.status ≠ 404 := by
  cases hdoc : site.assets.readIndex disk with
  | ok document =>
    rw [sendIndex, hdoc]
    exact (by decide : 200 ≠ 404)
  | error e =>
    rw [sendIndex_of_error hdoc]
    exact (by decide : 500 ≠ 404)

variable {start : String} (hstart : start.toList.head? = some '/') (assets : AssetTree) (script : EnvModule)

include hstart

/-- The mount itself leads to the root document. -/
theorem answer_mount (hfits : Uri.CanStartPath start) (disk : Disk) {request : Request}
    (huri : request.uri = .originForm ⟨start, none⟩) :
    answer ⟨assets, script, some start⟩ disk request =
      settle (sendIndex ⟨assets, script, some start⟩ disk) := by
  have hread : request.uri.IsRead := huri ▸ Uri.parse_isRead (hfits.parse_eq hstart)
  have hpath : request.uri.path.toList = start.toList ++ [] := by
    rw [huri, Uri.path_originForm_none, List.append_nil]
  have hbelow : below? ⟨assets, script, some start⟩ request.uri.path = some "/" :=
    Option.map_eq_some_iff.2 ⟨[], Mount.rest?_eq_some_iff.2 hpath, rfl⟩
  have hmount : HasRootedMount ⟨assets, script, some start⟩ := by
    rintro _ ⟨⟩
    exact hstart
  obtain ⟨uri, henter, hroot, -⟩ := enter_below hread hmount hbelow
  have hcanonical : canonicalize uri.path = .ok "/" := by
    rw [hroot]
    decide +kernel
  rw [answer_of_enter henter]
  exact congrArg settle (serve_of_missing hcanonical (by decide) (assets.lookup_slash disk))

/-- Where no URI has the mount in front of its path, nothing is below it. -/
theorem respond_nowhere (hfits : ¬ Uri.CanStartPath start) (disk : Disk) {request : Request}
    (hread : request.uri.IsRead) :
    ¬ start.toList <+: request.uri.path.toList ∧
      respond ⟨assets, script, some start⟩ disk request =
        (⟨404, [("content-length", "0")], ⟨.empty, some (.of request 404)⟩⟩, []) := by
  have hbehind : ¬ start.toList <+: request.uri.path.toList := fun h => hfits (hread.canStartPath hstart h)
  refine ⟨hbehind, ?_⟩
  rw [respond_eq, answer_of_enter_error (enter_outside hbehind assets script)]
  rfl

omit hstart

/-- A site that valid settings mount can be reached if and only if the mount can stand in front of the path
of a URI. If it can, the mount is a URI, and every request for it gets the root document, or is told that it
cannot be read, but never that there is nothing. If it cannot, no URI has the mount in front of its path, and
every request is answered with an empty 404, whatever the assets and the disk. The checks do not look at
that. -/
theorem respond_mountable {layers : List Settings.Layer} {s : Settings} {start : String}
    (hs : Settings.ofLayers layers = .ok s) (hmount : s.mountPath? = some start) (assets : AssetTree)
    (script : EnvModule) (disk : Disk) :
    let site : Site := ⟨assets, script, some start⟩
    (Uri.CanStartPath start →
      Uri.parse start = .ok (.originForm ⟨start, none⟩) ∧
      ∀ request : Request, request.uri = .originForm ⟨start, none⟩ →
        (site.respond disk request).1.status ≠ 404 ∧
        ∀ document, assets.readIndex disk = .ok document →
          site.respond disk request =
            (⟨200, [("content-length", toString document.length),
                ("content-type", "text/html; charset=utf-8")],
              ⟨.whole document, some (.of request 200)⟩⟩, [])) ∧
    (¬ Uri.CanStartPath start →
      ∀ (text : String) (request : Request), Uri.parse text = .ok request.uri →
        ¬ start.toList <+: request.uri.path.toList ∧
        site.respond disk request =
          (⟨404, [("content-length", "0")], ⟨.empty, some (.of request 404)⟩⟩, [])) := by
  intro site
  have hstart := Settings.head?_mountPath hs hmount
  refine ⟨fun hfits => ⟨hfits.parse_eq hstart, fun request huri => ?_⟩,
    fun hfits text request htext => ?_⟩
  · have hanswer : site.answer disk request = settle (site.sendIndex disk) :=
      answer_mount hstart assets script hfits disk huri
    rw [respond_eq, hanswer, Response.sent_status]
    refine ⟨status_sendIndex site disk, fun document hdoc => ?_⟩
    simp only [sendIndex, site, hdoc, settle_ok, Response.sent_ofData]
  · exact respond_nowhere hstart assets script hfits disk (Uri.parse_isRead htext)

/-- A mount with a blank passes the checks, and no request gets below it, however it spells the blank; with
an escape in its place, the same text leads to the root document. -/
theorem respond_mountable_blank :
    let t : FileTree := ⟨[(["build"], .directory), (["build", "index.html"], .file [60] 0)]⟩
    let site (start : String) : Site := ⟨⟨"build", "build/index.html"⟩, .empty, some start⟩
    let request : Request := { uri := .originForm ⟨"/my%20app", none⟩ }
    Settings.ofLayers [.environment [⟨Bytes.ofText "BASE_PATH", Bytes.ofText "/my app"⟩]] =
      .ok { basePath := "/my app" } ∧
    (site "/my app").respond (t.disk []) request =
      (⟨404, [("content-length", "0")], ⟨.empty, some (.of request 404)⟩⟩, []) ∧
    (site "/my%20app").respond (t.disk []) request =
      (⟨200, [("content-length", "1"), ("content-type", "text/html; charset=utf-8")],
        ⟨.whole [60], some (.of request 200)⟩⟩, []) := by
  intro t site request
  have hs : Settings.ofLayers [.environment [⟨Bytes.ofText "BASE_PATH", Bytes.ofText "/my app"⟩]] =
      .ok { basePath := "/my app" } := by decide +kernel
  have hs' : Settings.ofLayers [.environment [⟨Bytes.ofText "BASE_PATH", Bytes.ofText "/my%20app"⟩]] =
      .ok { basePath := "/my%20app" } := by decide +kernel
  have hblank : ¬ Uri.CanStartPath "/my app" := fun h => absurd (h.chars ' ' (by decide)) (by decide)
  have hescape : Uri.CanStartPath "/my%20app" := ⟨List.all_eq_true.1 (by decide), by decide⟩
  have huri : Uri.parse "/my%20app" = .ok request.uri := by decide +kernel
  have hdoc : (site "/my%20app").assets.readIndex (t.disk []) = .ok [60] := by decide +kernel
  refine ⟨hs, ?_, ?_⟩
  · exact ((respond_mountable hs (by decide) _ .empty (t.disk [])).2 hblank _ request huri).2
  · exact (((respond_mountable hs' (by decide) _ .empty (t.disk [])).1 hescape).2 request rfl).2 [60] hdoc

end Site

end SinglePage
