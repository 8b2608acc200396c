/-
The branches of the site: whatever a request seen below the mount is served with, it is served in one of
six ways, each with its conditions (`served`, `Served.serve_eq`). What is sent, and what is logged before
it is sent, is settled by that alone (`answer_of_enter`).
-/
import SinglePage.Proofs.Site.Serving

namespace SinglePage.Site

open RequestPath

/-- What a request seen below the mount is served with, one case for each branch of the site. -/
inductive Served (site : Site) (disk : Disk) (inner : Request) :
    Except ServeError (Response Body) → Prop where
  /-- The path has no canonical form. -/
  | malformed {e : PathError} : canonicalize inner.uri.path = .error e →
      Served site disk inner (.error (.badRequest e))
  | script : canonicalize inner.uri.path = .ok scriptPath → Served site disk inner (.ok site.sendScript)
  /-- The path names no file. -/
  | document {path : String} {document : Bytes} : canonicalize inner.uri.path = .ok path →
      path ≠ scriptPath → site.assets.lookup disk path = .ok .missing →
      site.assets.readIndex disk = .ok document →
      Served site disk inner (.ok (.ofData 200 "text/html; charset=utf-8" document))
  | noDocument {path : String} {e : SystemError} : canonicalize inner.uri.path = .ok path →
      path ≠ scriptPath → site.assets.lookup disk path = .ok .missing →
      site.assets.readIndex disk = .error e →
      Served site disk inner (.error (.internal "failed to read root document" e))
  | file {path found : String} : canonicalize inner.uri.path = .ok path → path ≠ scriptPath →
      site.assets.lookup disk path = .ok (.file found) →
      Served site disk inner (.ok (FileService.respond disk site.assets.root (fileRequest inner path)))
  | failed {path : String} {e : SystemError} : canonicalize inner.uri.path = .ok path →
      path ≠ scriptPath → site.assets.lookup disk path = .error e →
      Served site disk inner (.error (.internal "failed to open file" e))

/-- The response that a request is served with, or that of an error, and what is logged of it. -/
def settle : Except ServeError (Response Body) → Response Body × List LogLine
  | .ok response => (response, [])
  | .error e => (e.response, e.log)

@[simp] theorem settle_ok (response : Response Body) : settle (.ok response) = (response, []) := rfl

@[simp] theorem settle_error (e : ServeError) : settle (.error e) = (e.response, e.log) := rfl

section

variable {site : Site} {disk : Disk} {request inner : Request}
  {result : Except ServeError (Response Body)} {path : String}

theorem sendIndex_of_error {e : SystemError} (h : site.assets.readIndex disk = .error e) :
    site.sendIndex disk = .error (.internal "failed to read root document" e) := by
  unfold sendIndex
  rw [h]

theorem serve_of_malformed {e : PathError} (h : canonicalize inner.uri.path = .error e) :
    site.serve disk inner = .error (.badRequest e) := by
  unfold serve
  rw [h]

theorem serve_script (h : canonicalize inner.uri.path = .ok scriptPath) :
    site.serve disk inner = .ok site.sendScript := by
  unfold serve
  simp only [h, if_true]

/-- What is missing is left to the root document. -/
theorem serve_of_missing (hpath : canonicalize inner.uri.path = .ok path) (hscript : path ≠ scriptPath)
    (hlookup : site.assets.lookup disk path = .ok .missing) :
    site.serve disk inner = site.sendIndex disk := by
  unfold serve
  simp only [hpath, if_neg hscript, hlookup]

/-- Each branch is taken under its conditions. -/
theorem Served.serve_eq (h : Served site disk inner result) : site.serve disk inner = result := by
  cases h with
  | malformed hpath => exact serve_of_malformed hpath
  | script hpath => exact serve_script hpath
  | document hpath hscript hlookup hdoc => exact serve_missing hpath hscript hlookup hdoc
  | noDocument hpath hscript hlookup hdoc =>
    rw [serve_of_missing hpath hscript hlookup, sendIndex_of_error hdoc]
  | file hpath hscript hlookup => exact serve_file hpath hscript hlookup
  | failed hpath hscript hlookup => exact serve_error hpath hscript hlookup

/-- One of the branches is always taken. -/
theorem served (site : Site) (disk : Disk) (inner : Request) :
    Served site disk inner (site.serve disk inner) := by
  cases hpath : canonicalize inner.uri.path with
  | error e => exact serve_of_malformed hpath ▸ .malformed hpath
  | ok path =>
    by_cases hscript : path = scriptPath
    · subst hscript
      exact serve_script hpath ▸ .script hpath
    cases hlookup : site.assets.lookup disk path with
    | error e => exact serve_error hpath hscript hlookup ▸ .failed hpath hscript hlookup
    | ok found =>
      cases found with
      | file found => exact serve_file hpath hscript hlookup ▸ .file hpath hscript hlookup
      | missing =>
        cases hdoc : site.assets.readIndex disk with
        | ok document =>
          exact serve_missing hpath hscript hlookup hdoc ▸ .document hpath hscript hlookup hdoc
        | error e =>
          rw [serve_of_missing hpath hscript hlookup, sendIndex_of_error hdoc]
          exact .noDocument hpath hscript hlookup hdoc

/-! ## Branches without files -/

/-- All branches but that of the files see nothing of a request but its canonical path. -/
theorem Served.congr {inner' : Request} (h : Served site disk inner result)
    (hcanonical : canonicalize inner.uri.path = canonicalize inner'.uri.path)
    (hfile : ∀ path found, canonicalize inner.uri.path = .ok path → path ≠ scriptPath →
      site.assets.lookup disk path ≠ .ok (.file found)) : Served site disk inner' result := by
  cases h with
  | malformed hpath => exact .malformed (hcanonical ▸ hpath)
  | script hpath => exact .script (hcanonical ▸ hpath)
  | document hpath hscript hlookup hdoc => exact .document (hcanonical ▸ hpath) hscript hlookup hdoc
  | noDocument hpath hscript hlookup hdoc => exact .noDocument (hcanonical ▸ hpath) hscript hlookup hdoc
  | failed hpath hscript hlookup => exact .failed (hcanonical ▸ hpath) hscript hlookup
  | file hpath hscript hlookup => exact absurd hlookup (hfile _ _ hpath hscript)

theorem serve_congr {inner' : Request}
    (hcanonical : canonicalize inner.uri.path = canonicalize inner'.uri.path)
    (hfile : ∀ path found, canonicalize inner.uri.path = .ok path → path ≠ scriptPath →
      site.assets.lookup disk path ≠ .ok (.file found)) :
    site.serve disk inner = site.serve disk inner' :=
  ((served site disk inner).congr hcanonical hfile).serve_eq.symm

/-! ## Around the branches -/

theorem answer_of_enter (he : site.enter request = .ok inner) :
    site.answer disk request = settle (site.serve disk inner) := by
  unfold answer
  rw [he]
  rfl

theorem answer_of_enter_error {response : Response Body} (he : site.enter request = .error response) :
    site.answer disk request = (response, []) := by
  unfold answer
  rw [he]

/-- What lies outside of the mount is answered with an empty 404. -/
theorem enter_of_below?_none (h : site.below? request.uri.path = none) :
    site.enter request = .error (.ofStatus 404) := by
  unfold below? at h
  unfold enter
  cases hm : site.mount with
  | none => rw [hm] at h; cases h
  | some start =>
    rw [hm] at h
    show Mount.enter start request = _
    unfold Mount.enter
    rw [Option.map_eq_none_iff.1 h]

/-! ## Requests for files -/

/-- A request is one for a file: below the mount its path has a canonical form, which is not that of the
script, and at which a file stands. -/
structure AsksForFile (site : Site) (disk : Disk) (request inner : Request) (path : String) : Prop where
  entered : site.enter request = .ok inner
  canonical : canonicalize inner.uri.path = .ok path
  noScript : path ≠ scriptPath
  stands : ∃ found, site.assets.lookup disk path = .ok (.file found)

/-- A request for a file is answered by the service of files. -/
theorem AsksForFile.answer_eq (h : site.AsksForFile disk request inner path) :
    site.answer disk request =
      (FileService.respond disk site.assets.root (fileRequest inner path), []) := by
  obtain ⟨found, hlookup⟩ := h.stands
  rw [answer_of_enter h.entered, serve_file h.canonical h.noScript hlookup, settle_ok]

end

end SinglePage.Site
