/-
What a response depends on. Where no file is sent, nothing of a request matters but its path, and of
the path only the canonical one that it is read into behind the mount. The script hides whatever stands at
its path in the directory of the assets (`respond_independent`).
-/
import SinglePage.Proofs.AssetTree.Lookup
import SinglePage.Proofs.Site.Answers
import SinglePage.Proofs.Site.Branches

namespace SinglePage

open RequestPath

namespace Site

variable {site : Site} {disk : Disk} {request request' : Request}

theorem sameAnswer_of_answer (h : site.answer disk request = site.answer disk request') :
    SameAnswer (site.respond disk request) (site.respond disk request') := by
  rw [respond_eq, respond_eq, h]
  exact .sent ..

/-! ## The canonical path -/

/-- Below the mount, requests for the same canonical path are answered alike, if it names no file. -/
theorem answer_of_canonicalize {raw raw' : String} (hmount : site.HasRootedMount)
    (hread : request.uri.IsRead) (hread' : request'.uri.IsRead)
    (hbelow : site.below? request.uri.path = some raw) (hbelow' : site.below? request'.uri.path = some raw')
    (hcanonical : canonicalize raw = canonicalize raw')
    (hfile : ∀ path, canonicalize raw = .ok path → path ≠ scriptPath → ¬ site.assets.HasFile disk path) :
    site.answer disk request = site.answer disk request' := by
  obtain ⟨uri, henter, rfl, -⟩ := enter_below hread hmount hbelow
  obtain ⟨uri', henter', rfl, -⟩ := enter_below hread' hmount hbelow'
  rw [answer_of_enter henter, answer_of_enter henter']
  refine congrArg settle (serve_congr hcanonical fun path found hpath hscript hlookup => ?_)
  exact hfile path hpath hscript (AssetTree.hasFile_of_lookup (canonicalize_isCanonical hpath) hlookup)

/-! ## The path alone -/

/-- The path of a request leads to a file: it lies below the mount, and is read there into a canonical path
that names a file and is not that of the script. -/
def LeadsToFile (site : Site) (disk : Disk) (path : String) : Prop :=
  ∃ raw canonical, site.below? path = some raw ∧ canonicalize raw = .ok canonical ∧
    canonical ≠ scriptPath ∧ site.assets.HasFile disk canonical

theorem answer_of_path (hmount : site.HasRootedMount) (hread : request.uri.IsRead)
    (hread' : request'.uri.IsRead) (hpath : request.uri.path = request'.uri.path)
    (hfile : ¬ site.LeadsToFile disk request.uri.path) :
    site.answer disk request = site.answer disk request' := by
  cases hbelow : site.below? request.uri.path with
  | none =>
    rw [answer_of_enter_error (enter_of_below?_none hbelow),
      answer_of_enter_error (enter_of_below?_none (hpath ▸ hbelow))]
  | some raw =>
    refine answer_of_canonicalize hmount hread hread' hbelow (hpath ▸ hbelow) rfl ?_
    exact fun path hcanonical hscript hfound => hfile ⟨raw, path, hbelow, hcanonical, hscript, hfound⟩

/-- Where no file is sent, the response is settled by the path alone. Two requests with the same path get
the same status, headers and body, whatever else they are like, if the path lies outside of the mount,
has no canonical form, or names no file. So do two requests whose paths have the same canonical form below
the mount, if that names no file, or is the path of the script. At the path of the script there is the
script, whatever the disk holds there. -/
theorem respond_independent {text text' : String} (hmount : site.HasRootedMount)
    (huri : Uri.parse text = .ok request.uri) (huri' : Uri.parse text' = .ok request'.uri) (disk : Disk) :
    (request.uri.path = request'.uri.path → ¬ site.LeadsToFile disk request.uri.path →
      SameAnswer (site.respond disk request) (site.respond disk request')) ∧
    (∀ raw raw' path, site.below? request.uri.path = some raw → site.below? request'.uri.path = some raw' →
      canonicalize raw = .ok path → canonicalize raw' = .ok path →
      path = scriptPath ∨ ¬ site.assets.HasFile disk path →
      SameAnswer (site.respond disk request) (site.respond disk request')) ∧
    (∀ raw, site.below? request.uri.path = some raw → canonicalize raw = .ok scriptPath →
      ∀ disk, site.respond disk request =
        (⟨200, [("content-length", toString site.script.body.length),
            ("content-type", "application/javascript")],
          ⟨.whole site.script.body, some (.of request 200)⟩⟩, [])) := by
  have hread := Uri.parse_isRead huri
  have hread' := Uri.parse_isRead huri'
  refine ⟨fun hpath hfile => ?_, fun raw raw' path hbelow hbelow' hraw hraw' hfile => ?_,
    fun raw hbelow hraw disk => ?_⟩
  · exact sameAnswer_of_answer (answer_of_path hmount hread hread' hpath hfile)
  · refine sameAnswer_of_answer
      (answer_of_canonicalize hmount hread hread' hbelow hbelow' (hraw.trans hraw'.symm) ?_)
    intro path' hpath' hscript
    rw [hraw, Except.ok.injEq] at hpath'
    subst hpath'
    exact hfile.resolve_left hscript
  · obtain ⟨uri, henter, rfl, -⟩ := enter_below hread hmount hbelow
    rw [respond_of_serve henter (serve_script hraw), sendScript, Response.sent_ofData]

/-- A whole URI with a query, a range and a method of its own, and a HEAD request: both ask behind the
mount for a name that is not there, and get the same answer. By another spelling both would get the script,
which hides a link that leads to itself. -/
theorem respond_independent_hidden :
    let t : FileTree := ⟨[(["www"], .directory), (["www", "index.html"], .file [60] 0),
      (["www", "_app"], .directory), (["www", "_app", "env.js"], .link "env.js")]⟩
    let site : Site := ⟨⟨"/www", "/www/index.html"⟩, .empty, some "/app"⟩
    let request : Request :=
      { method := ⟨"PUT"⟩, uri := .absoluteForm "http" "host" ⟨"/app/none.js", some "v"⟩,
        headers := [("range", Bytes.ofText "bytes=0-0")] }
    let request' : Request := { method := .head, uri := .originForm ⟨"/app/none.js", none⟩, version := .http10 }
    let script : Request := { request with uri := .originForm ⟨"/app%2F_app/./env.js", none⟩ }
    SameAnswer (site.respond (t.disk []) request) (site.respond (t.disk []) request') ∧
    site.respond (t.disk []) script =
      (⟨200, [("content-length", "19"), ("content-type", "application/javascript")],
        ⟨.whole (Bytes.ofText "export const env=\x7b\x7d"), some (.of script 200)⟩⟩, []) := by
  intro t site request request' script
  have hmount : site.HasRootedMount := by
    rintro start ⟨⟩
    decide
  have huri : Uri.parse "http://host/app/none.js?v" = .ok request.uri := by decide +kernel
  have huri' : Uri.parse "/app/none.js" = .ok request'.uri := by decide +kernel
  have hscript : Uri.parse "/app%2F_app/./env.js" = .ok script.uri := by decide +kernel
  have hbelow : site.below? request.uri.path = some "/none.js" := by decide +kernel
  have hcanonical : canonicalize "/none.js" = .ok "/none.js" := by decide +kernel
  have hmissing : t.disk [] (site.assets.location "/none.js") = .error .notFound := by decide +kernel
  have hfile : ¬ site.LeadsToFile (t.disk []) request.uri.path := by
    rintro ⟨raw, path, hraw, hpath, -, -, data, modified, hdata⟩
    rw [hbelow, Option.some.injEq] at hraw
    rw [← hraw, hcanonical, Except.ok.injEq] at hpath
    rw [← hpath, hmissing] at hdata
    cases hdata
  have hbody : site.script.body = Bytes.ofText "export const env=\x7b\x7d" := by decide +kernel
  have hlength : toString site.script.body.length = "19" := by decide +kernel
  refine ⟨(respond_independent hmount huri huri' (t.disk [])).1 (by decide +kernel) hfile, ?_⟩
  rw [← hbody, ← hlength]
  exact (respond_independent hmount hscript hscript (t.disk [])).2.2 "/%2F_app/./env.js"
    (by decide +kernel) (by decide +kernel) (t.disk [])

end Site

end SinglePage
