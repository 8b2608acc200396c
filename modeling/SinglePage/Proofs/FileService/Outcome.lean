/-
What the service of files answers. Either there is nothing to look at, or no file there, or the file
cannot be opened, or a condition of the request keeps it back, or it is sent (`outcome`): as a whole, or as the
range that is asked for, or not at all, if the ranges cannot be met (`sent`). The service fails if the file cannot be opened although it is there and not forbidden, or if a part is asked for of a file in
which one cannot move; then and only then it answers with an empty 500 (`respond_status_500_iff`).
-/
import SinglePage.FileService

namespace SinglePage

/-! ## Opening files -/

namespace Disk

variable {disk : Disk} {path : String}

theorem openFile_eq_some_iff {file : OpenFile} {modified : Nat} :
    disk.openFile path = .ok (some (file, modified)) ↔ disk path = .ok (.file (.ok file) modified) := by
  unfold openFile
  cases disk path with
  | error e => simp
  | ok found =>
    cases found with
    | file opened time => cases opened <;> simp [Except.map]
    | _ => simp

/-- There is nothing there, or a file that cannot be opened. -/
theorem openFile_eq_error_iff {cause : SystemError} :
    disk.openFile path = .error cause ↔
      disk path = .error cause ∨ ∃ modified, disk path = .ok (.file (.error cause) modified) := by
  unfold openFile
  cases disk path with
  | error e => simp
  | ok found =>
    cases found with
    | file opened time => cases opened <;> simp [Except.map]
    | _ => simp

end Disk

namespace FileService

variable {disk : Disk} {root path : String} {request : Request} {file : OpenFile} {modified status : Nat}
  {cause : SystemError}

/-! ## The ways to answer -/

/-- What a request is answered with, one case for each way in which the service answers. -/
inductive Outcome (disk : Disk) (root : String) (request : Request) : Response Body → Prop where
  /-- The path leads up, or cannot be read. -/
  | nowhere : location? root request.uri.path = none → Outcome disk root request (.ofStatus 404)
  | noFile {path : String} : location? root request.uri.path = some path → disk.openFile path = .ok none →
      Outcome disk root request (.ofStatus 404)
  | unopened {path : String} {cause : SystemError} : location? root request.uri.path = some path →
      disk.openFile path = .error cause → Outcome disk root request (failure cause)
  /-- A condition on the time of change keeps the file back. -/
  | kept {path : String} {file : OpenFile} {modified status : Nat} :
      location? root request.uri.path = some path → disk.openFile path = .ok (some (file, modified)) →
      conditionStatus? request modified = some status → Outcome disk root request (.ofStatus status)
  | sent {path : String} {file : OpenFile} {modified : Nat} : location? root request.uri.path = some path →
      disk.openFile path = .ok (some (file, modified)) → conditionStatus? request modified = none →
      Outcome disk root request (sendFile request path file modified)

/-- The service answers in one of these ways. -/
theorem outcome (disk : Disk) (root : String) (request : Request) :
    Outcome disk root request (respond disk root request) := by
  unfold respond
  split
  · rename_i hloc
    exact .nowhere hloc
  rename_i path hloc
  split
  · rename_i cause hopen
    exact .unopened hloc hopen
  · rename_i hopen
    exact .noFile hloc hopen
  rename_i file modified hopen
  split
  · rename_i status hcondition
    exact .kept hloc hopen hcondition
  · rename_i hcondition
    exact .sent hloc hopen hcondition

/-- A file that no condition keeps back is sent. -/
theorem respond_of_openFile (hloc : location? root request.uri.path = some path)
    (hopen : disk.openFile path = .ok (some (file, modified)))
    (hcondition : conditionStatus? request modified = none) :
    respond disk root request = sendFile request path file modified := by
  unfold respond
  simp only [hloc, hopen, hcondition]

theorem respond_of_unopened (hloc : location? root request.uri.path = some path)
    (hopen : disk.openFile path = .error cause) : respond disk root request = failure cause := by
  unfold respond
  simp only [hloc, hopen]

/-! ## What is sent of a file -/

/-- What a request for a file that has been opened is answered with, one case for each way in which it asks for
ranges. -/
inductive Sent (request : Request) (path : String) (file : OpenFile) (modified : Nat) : Response Body → Prop where
  | whole : (request.header? "range").bind headerText? = none →
      Sent request path file modified ⟨200, ("content-length", toString file.data.length) ::
        fileHeaders path modified, bodyFor request file.data⟩
  | part {header : String} {range : ByteRange} : (request.header? "range").bind headerText? = some header →
      ByteRange.parse? header file.data.length = some [range] → file.movable = true →
      Sent request path file modified ⟨206, ("content-range", contentRange range file.data.length) ::
        ("content-length", toString range.length) :: fileHeaders path modified,
        bodyFor request (range.slice file.data)⟩
  /-- One cannot move to where the part starts. -/
  | unmoved {header : String} {range : ByteRange} : (request.header? "range").bind headerText? = some header →
      ByteRange.parse? header file.data.length = some [range] → file.movable = false →
      Sent request path file modified (failure .illegalSeek)
  | several {header : String} {ranges : List ByteRange} :
      (request.header? "range").bind headerText? = some header →
      ByteRange.parse? header file.data.length = some ranges → (∀ range, ranges ≠ [range]) →
      Sent request path file modified ⟨416, noRange file.data.length :: fileHeaders path modified,
        .whole (Bytes.ofText severalRanges)⟩
  /-- The ranges cannot be read, or there are no such bytes. -/
  | refused {header : String} : (request.header? "range").bind headerText? = some header →
      ByteRange.parse? header file.data.length = none →
      Sent request path file modified ⟨416, noRange file.data.length :: fileHeaders path modified, .empty⟩

/-- A file is sent in one of these ways. -/
theorem sent (request : Request) (path : String) (file : OpenFile) (modified : Nat) :
    Sent request path file modified (sendFile request path file modified) := by
  unfold sendFile
  simp only
  split
  · rename_i hheader
    exact .whole hheader
  rename_i header hheader
  split
  · rename_i range hparse
    split
    · rename_i hmovable
      exact .part hheader hparse hmovable
    · rename_i hmovable
      exact .unmoved hheader hparse (eq_false_of_ne_true hmovable)
  · rename_i ranges hseveral hparse
    exact .several hheader hparse hseveral
  · rename_i hparse
    exact .refused hheader hparse

/-! ## The status -/

theorem conditionStatus?_eq_some (h : conditionStatus? request modified = some status) :
    status = 412 ∨ status = 304 := by
  unfold conditionStatus? at h
  split at h
  · exact .inl (Option.some.inj h).symm
  split at h
  · exact .inr (Option.some.inj h).symm
  · cases h

/-- A request asks for one part of data of a size. -/
def AsksForPart (request : Request) (size : Nat) : Prop :=
  ∃ header range, (request.header? "range").bind headerText? = some header ∧
    ByteRange.parse? header size = some [range]

theorem sendFile_status (request : Request) (path : String) (file : OpenFile) (modified : Nat) :
    (sendFile request path file modified).status ∈ [200, 206, 416, 500] := by
  have hsent := sent request path file modified
  generalize sendFile request path file modified = response at hsent
  cases hsent with
  | unmoved => decide
  | _ => simp

theorem sendFile_of_unmovable (hmovable : file.movable = false) (hpart : AsksForPart request file.data.length) :
    sendFile request path file modified = .ofStatus 500 := by
  obtain ⟨header, range, hheader, hparse⟩ := hpart
  unfold sendFile
  simp only [hheader, hparse, hmovable, Bool.false_eq_true, if_false]
  rfl

/-- All but a part of a file in which one cannot move can be sent. -/
theorem sendFile_status_500_iff :
    (sendFile request path file modified).status = 500 ↔
      file.movable = false ∧ AsksForPart request file.data.length := by
  constructor
  · intro h
    have hsent := sent request path file modified
    generalize sendFile request path file modified = response at h hsent
    cases hsent with
    | unmoved hheader hparse hmovable => exact ⟨hmovable, _, _, hheader, hparse⟩
    | whole => exact absurd h (by decide : 200 ≠ 500)
    | part => exact absurd h (by decide : 206 ≠ 500)
    | several => exact absurd h (by decide : 416 ≠ 500)
    | refused => exact absurd h (by decide : 416 ≠ 500)
  · rintro ⟨hmovable, hpart⟩
    rw [sendFile_of_unmovable hmovable hpart]
    rfl

/-- The service fails with a request. -/
inductive Fails (disk : Disk) (root : String) (request : Request) : Prop where
  /-- What it looks at cannot be opened, although it is not missing and not forbidden. -/
  | opening {path : String} {cause : SystemError} : location? root request.uri.path = some path →
      disk.openFile path = .error cause → cause.isMissing = false → cause.isDenied = false →
      Fails disk root request
  /-- The request asks for a part of a file in which one cannot move. -/
  | moving {path : String} {file : OpenFile} {modified : Nat} : location? root request.uri.path = some path →
      disk.openFile path = .ok (some (file, modified)) → conditionStatus? request modified = none →
      file.movable = false → AsksForPart request file.data.length → Fails disk root request

/-- Of the cause, nothing is told. -/
theorem respond_of_fails (h : Fails disk root request) : respond disk root request = .ofStatus 500 := by
  cases h with
  | opening hloc hopen hmissing hdenied =>
    rw [respond_of_unopened hloc hopen, failure, hmissing, hdenied]
    rfl
  | moving hloc hopen hcondition hmovable hpart =>
    rw [respond_of_openFile hloc hopen hcondition, sendFile_of_unmovable hmovable hpart]

/-- The service answers that it has failed if and only if it has. -/
theorem respond_status_500_iff : (respond disk root request).status = 500 ↔ Fails disk root request := by
  constructor
  · intro h
    have houtcome := outcome disk root request
    generalize respond disk root request = response at h houtcome
    cases houtcome with
    | nowhere hloc => exact absurd h (by decide : 404 ≠ 500)
    | noFile hloc hopen => exact absurd h (by decide : 404 ≠ 500)
    | @unopened path cause hloc hopen =>
      have hcause : ¬ (cause.isMissing || cause.isDenied) = true := by
        intro hcause
        rw [failure, if_pos hcause] at h
        exact absurd h (by decide : 404 ≠ 500)
      rw [Bool.not_eq_true, Bool.or_eq_false_iff] at hcause
      exact .opening hloc hopen hcause.1 hcause.2
    | kept hloc hopen hcondition =>
      have hstatus : _ = 500 := h
      rcases conditionStatus?_eq_some hcondition with rfl | rfl <;> cases hstatus
    | sent hloc hopen hcondition =>
      obtain ⟨hmovable, hpart⟩ := sendFile_status_500_iff.1 h
      exact .moving hloc hopen hcondition hmovable hpart
  · intro h
    rw [respond_of_fails h]
    rfl

end FileService

end SinglePage
