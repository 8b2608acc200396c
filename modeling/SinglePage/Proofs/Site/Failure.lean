/-
Failures stay inside, but for one kind. A request fails if its path cannot be looked up, or names no file
while the root document cannot be read. All such requests are answered alike, and each is logged by one line
with the cause, in front of the line of the access log that every request has. The service of files can fail
as well, with a file that has been found; it then answers with the same status and without a body, and the
site logs no cause (`respond_failure`).

In a file system it does so for two reasons (`failsWithFile_iff_of_tree`): the './' that it puts in front of a
relative path makes that too long, or it is asked for a part of a file in which one cannot move.
-/
import SinglePage.Proofs.Site.Answers
import SinglePage.Proofs.Site.Branches
import SinglePage.Proofs.Site.Confinement
import SinglePage.Proofs.Site.Spelling

namespace SinglePage

open DiskPath RequestPath

namespace FileService

/-- Of a file system, the service of files opens what is found there, unless './' in front of the path makes
it too long. -/
theorem fails_iff_of_tree {t : FileTree} {here : Location} {root found : String} {request : Request}
    {file : OpenFile} {modified : Nat} (hloc : location? root request.uri.path = some (DiskPath.join "." found))
    (hfile : t.disk here found = .ok (.file (.ok file) modified)) :
    Fails (t.disk here) root request ↔
      FileTree.maxPath ≤ (DiskPath.join "." found).utf8ByteSize ∨
        (conditionStatus? request modified = none ∧ file.movable = false ∧
          AsksForPart request file.data.length) := by
  have hdisk := FileTree.disk_dot_join_eq hfile
  by_cases hsize : FileTree.maxPath ≤ (DiskPath.join "." found).utf8ByteSize
  · rw [if_pos hsize] at hdisk
    have hopen := Disk.openFile_eq_error_iff.2 (.inl hdisk)
    exact iff_of_true (.opening hloc hopen (by decide) (by decide)) (.inl hsize)
  · rw [if_neg hsize] at hdisk
    have hopen := Disk.openFile_eq_some_iff.2 hdisk
    rw [or_iff_right hsize]
    constructor
    · intro h
      cases h with
      | opening hloc' hopen' _ _ =>
        rw [hloc, Option.some.injEq] at hloc'
        rw [← hloc', hopen] at hopen'
        cases hopen'
      | moving hloc' hopen' hcondition hmovable hpart =>
        rw [hloc, Option.some.injEq] at hloc'
        rw [← hloc', hopen] at hopen'
        cases hopen'
        exact ⟨hcondition, hmovable, hpart⟩
    · rintro ⟨hcondition, hmovable, hpart⟩
      exact .moving hloc hopen hcondition hmovable hpart

end FileService

namespace Site

/-! ## Failures -/

/-- A request fails, with a message for the log and with a cause. -/
inductive Fails (site : Site) (disk : Disk) (request : Request) : String → SystemError → Prop where
  /-- The path cannot be looked up, for another cause than that there is no such entry. -/
  | lookup {raw path : String} {cause : SystemError} : site.below? request.uri.path = some raw →
      canonicalize raw = .ok path → path ≠ scriptPath → site.assets.lookup disk path = .error cause →
      cause.isMissing = false → Fails site disk request "failed to open file" cause
  /-- The path names no file, and the root document cannot be read. -/
  | document {raw path : String} {cause : SystemError} : site.below? request.uri.path = some raw →
      canonicalize raw = .ok path → path ≠ scriptPath → site.assets.lookup disk path = .ok .missing →
      site.assets.readIndex disk = .error cause →
      Fails site disk request "failed to read root document" cause

/-- The service of files fails with a file that has been found. -/
def FailsWithFile (site : Site) (disk : Disk) (request : Request) : Prop :=
  ∃ inner path, site.AsksForFile disk request inner path ∧
    FileService.Fails disk site.assets.root (fileRequest inner path)

section

variable {site : Site} {disk : Disk} {request inner : Request} {path found context : String}
  {cause : SystemError}

/-! ## In file systems -/

/-- A request that fails is answered as an internal error. -/
theorem respond_of_fails (hread : request.uri.IsRead) (hmount : site.HasRootedMount)
    (h : site.Fails disk request context cause) :
    site.respond disk request =
      (⟨500, [("content-length", "21"), ("content-type", "text/plain; charset=utf-8")],
        ⟨.whole (Bytes.ofText "Internal server error"), some (.of request 500)⟩⟩,
        [⟨.error, "spa_server::error", context, [("error", .text cause.message)]⟩]) := by
  have hserve : ∃ inner, site.enter request = .ok inner ∧
      site.serve disk inner = .error (.internal context cause) := by
    cases h with
    | lookup hbelow hpath hscript hlookup _ =>
      obtain ⟨uri, he, rfl, -⟩ := enter_below hread hmount hbelow
      exact ⟨_, he, serve_error hpath hscript hlookup⟩
    | document hbelow hpath hscript hlookup hdoc =>
      obtain ⟨uri, he, rfl, -⟩ := enter_below hread hmount hbelow
      have hserved : Served site disk { request with uri } _ := .noDocument hpath hscript hlookup hdoc
      exact ⟨_, he, hserved.serve_eq⟩
  obtain ⟨inner, he, hs⟩ := hserve
  rw [respond_of_serve_error he hs, ServeError.sent_internal]
  rfl

/-- Where the service of files fails, its response is passed on as it is. -/
theorem respond_of_failsWithFile (h : site.FailsWithFile disk request) :
    site.respond disk request =
      (⟨500, [("content-length", "0")], ⟨.empty, some (.of request 500)⟩⟩, []) := by
  obtain ⟨inner, path, hfile, hfails⟩ := h
  rw [respond_eq, hfile.answer_eq, FileService.respond_of_fails hfails]
  rfl

/-- A request that does not fail is answered with another status, and no error is logged. -/
theorem respond_of_not_fails (hread : request.uri.IsRead) (hmount : site.HasRootedMount)
    (h : ¬ ((∃ context cause, site.Fails disk request context cause) ∨ site.FailsWithFile disk request)) :
    (site.respond disk request).1.status ≠ 500 ∧ (site.respond disk request).2 = [] := by
  obtain ⟨hnone, hfile⟩ := not_or.1 h
  rw [respond_eq, Response.sent_status]
  cases hbelow : site.below? request.uri.path with
  | none =>
    rw [answer_of_enter_error (enter_of_below?_none hbelow)]
    exact ⟨(by decide : 404 ≠ 500), rfl⟩
  | some raw =>
    obtain ⟨uri, he, rfl, -⟩ := enter_below hread hmount hbelow
    rw [answer_of_enter he]
    have hserved := served site disk { request with uri }
    generalize site.serve disk { request with uri } = result at hserved ⊢
    cases hserved with
    | malformed hpath => exact ⟨(by decide : 400 ≠ 500), rfl⟩
    | script hpath => exact ⟨(by decide : 200 ≠ 500), rfl⟩
    | document hpath hscript hlookup hdoc => exact ⟨(by decide : 200 ≠ 500), rfl⟩
    | noDocument hpath hscript hlookup hdoc =>
      exact absurd ⟨_, _, .document hbelow hpath hscript hlookup hdoc⟩ hnone
    | failed hpath hscript hlookup =>
      exact absurd ⟨_, _, .lookup hbelow hpath hscript hlookup (AssetTree.lookup_error hlookup)⟩ hnone
    | @file path found hpath hscript hlookup =>
      refine ⟨fun hstatus => hfile ⟨_, path, ⟨he, hpath, hscript, found, hlookup⟩, ?_⟩, rfl⟩
      exact FileService.respond_status_500_iff.1 hstatus

theorem respond_status_500_iff (hread : request.uri.IsRead) (hmount : site.HasRootedMount) :
    (site.respond disk request).1.status = 500 ↔
      (∃ context cause, site.Fails disk request context cause) ∨ site.FailsWithFile disk request := by
  refine ⟨fun h => by_contra fun hno => (respond_of_not_fails hread hmount hno).1 h, ?_⟩
  rintro (⟨context, cause, h⟩ | h)
  · rw [respond_of_fails hread hmount h]
  · rw [respond_of_failsWithFile h]

end

end Site

end SinglePage
