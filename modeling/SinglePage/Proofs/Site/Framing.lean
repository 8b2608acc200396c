/-
The lengths that responses announce. Whatever branch a response comes from, it has data in memory, whose
length is added when it is sent, or it has the data of a file and gives its length (`answer_framed`). A
range of a file holds as many bytes as its ends say (`length_slice`), unless the file is empty: the one
byte that its range spans is not there.
-/
import SinglePage.Proofs.FileService.Outcome
import SinglePage.Proofs.Site.Serving

namespace SinglePage

/-! ## Ranges -/

namespace ByteRange

variable {item first last : List Char} {size : Nat} {r : ByteRange}

theorem ofBounds?_last_le (h : ofBounds? first last size = some r) : r.last ≤ lastOf size := by
  unfold ofBounds? at h
  split at h
  · obtain ⟨n, -, h⟩ := Option.bind_eq_some_iff.1 h
    split at h
    · cases h
    · cases h; exact le_rfl
  · obtain ⟨n, -, h⟩ := Option.bind_eq_some_iff.1 h
    cases h; exact le_rfl
  · obtain ⟨n, -, h⟩ := Option.bind_eq_some_iff.1 h
    obtain ⟨m, -, h⟩ := Option.bind_eq_some_iff.1 h
    cases h; exact min_le_right m _

theorem item?_last_le (h : item? item size = some r) : r.last ≤ lastOf size := by
  unfold item? at h
  split at h
  · exact ofBounds?_last_le h
  · cases h

/-- A header that can be read has a first item, whose range stands first, and its ranges do not meet. -/
theorem exists_of_parse? {header : String} {ranges : List ByteRange} (h : parse? header size = some ranges) :
    ∃ item first rest, item? item size = some first ∧ ranges = first :: rest ∧
      areDisjoint ranges = true := by
  unfold parse? at h
  simp only at h
  split at h
  · cases h
  obtain ⟨found, hfound, h⟩ := Option.bind_eq_some_iff.1 h
  split at h
  · rename_i hdisjoint
    cases h
    obtain ⟨item, items, hitems⟩ :=
      List.exists_cons_of_ne_nil (List.splitOn_ne_nil ',' (header.toList.drop 6))
    rw [hitems, List.mapM_cons] at hfound
    obtain ⟨first, hfirst, hfound⟩ := Option.bind_eq_some_iff.1 hfound
    obtain ⟨rest, -, hfound⟩ := Option.bind_eq_some_iff.1 hfound
    cases hfound
    exact ⟨item, first, rest, hfirst, rfl, hdisjoint⟩
  · cases h

/-- A range that can be sent alone is not reversed, and ends where the data ends at the latest. -/
theorem parse?_bounds {header : String} (h : parse? header size = some [r]) :
    r.first ≤ r.last ∧ r.last ≤ lastOf size := by
  obtain ⟨item, first, rest, hitem, heq, hdisjoint⟩ := exists_of_parse? h
  cases heq
  simp only [areDisjoint, Bool.and_eq_true, decide_eq_true_eq] at hdisjoint
  exact ⟨hdisjoint.1.1, item?_last_le hitem⟩

/-- A range holds as many bytes as its ends say, if there are any. -/
theorem length_slice {α : Type} {data : List α} (hfirst : r.first ≤ r.last)
    (hlast : r.last ≤ lastOf data.length) (hne : data ≠ []) : (r.slice data).length = r.length := by
  have hpos : 0 < data.length := List.length_pos_of_ne_nil hne
  simp only [lastOf] at hlast
  simp only [slice, length, List.length_take, List.length_drop]
  omega

/-- A range without bytes is one of no data. -/
theorem eq_nil_of_slice {α : Type} {data : List α} (hfirst : r.first ≤ r.last)
    (hlast : r.last ≤ lastOf data.length) (h : r.slice data = []) : data = [] := by
  by_contra hne
  have hlength := length_slice hfirst hlast hne
  rw [h] at hlength
  simp [length] at hlength

/-- The only range of no bytes spans one. -/
theorem length_of_empty (hfirst : r.first ≤ r.last) (hlast : r.last ≤ lastOf 0) : r.length = 1 := by
  simp only [lastOf] at hlast
  simp only [length]
  omega

end ByteRange

/-! ## Responses -/

/-- The ways in which a response to a request for data announces its length: that of data in memory is
added when it is sent, that of a file is given. -/
inductive Framed (r : Response Body) : Prop where
  | whole (data : Bytes) : r.body = .whole data → r.header? "content-length" = none → Framed r
  | file (data : Bytes) : r.body = .file data →
      r.header? "content-length" = some (toString data.length) → ¬ (r.status = 206 ∧ data = []) → Framed r
  /-- A range of an empty file is announced as one byte. -/
  | emptyRange : r.body = .file [] → r.header? "content-length" = some (toString 1) → r.status = 206 →
      Framed r

theorem Framed.ofData (status : Nat) (contentType : String) (data : Bytes) :
    Framed (.ofData status contentType data) := .whole data rfl rfl

theorem Framed.ofStatus (status : Nat) : Framed (.ofStatus status) := .whole [] rfl rfl

theorem ServeError.framed_response (e : ServeError) : Framed e.response := by
  cases e <;> exact .ofData ..

theorem Site.framed_sendIndex {site : Site} {disk : Disk} {response : Response Body}
    (h : site.sendIndex disk = .ok response) : Framed response := by
  unfold Site.sendIndex at h
  split at h
  · cases h; exact .ofData ..
  · cases h

namespace FileService

theorem framed_sendFile {request : Request} (hmethod : request.method ≠ .head) (path : String)
    (file : OpenFile) (modified : Nat) : Framed (sendFile request path file modified) := by
  have hbody (data : Bytes) : bodyFor request data = .file data := if_neg hmethod
  have hsent := sent request path file modified
  generalize sendFile request path file modified = response at hsent
  cases hsent with
  | whole => exact .file file.data (hbody _) rfl fun h => absurd h.1 (by decide : 200 ≠ 206)
  | @part header range hheader hparse =>
    obtain ⟨hfirst, hlast⟩ := ByteRange.parse?_bounds hparse
    by_cases hne : file.data = []
    · rw [hne] at hlast ⊢
      have hlength := ByteRange.length_of_empty hfirst hlast
      exact .emptyRange ((hbody _).trans (by simp [ByteRange.slice])) (by rw [hlength]; rfl) rfl
    · have hlength := ByteRange.length_slice hfirst hlast hne
      refine .file (range.slice file.data) (hbody _) (by rw [hlength]; rfl) ?_
      exact fun h => hne (ByteRange.eq_nil_of_slice hfirst hlast h.2)
  | unmoved => exact .ofStatus _
  | several => exact .whole _ rfl rfl
  | refused => exact .whole _ rfl rfl

theorem framed_respond (disk : Disk) (root : String) {request : Request} (hmethod : request.method ≠ .head) :
    Framed (respond disk root request) := by
  have houtcome := outcome disk root request
  generalize respond disk root request = response at houtcome
  cases houtcome with
  | sent hloc hopen hcondition => exact framed_sendFile hmethod ..
  | _ => exact .ofStatus _

end FileService

namespace Site

variable {site : Site} {disk : Disk} {request inner : Request} {response : Response Body}

/-- Below a mount, a request keeps its method. -/
theorem enter_method (h : site.enter request = .ok inner) : inner.method = request.method := by
  unfold enter at h
  split at h
  · unfold Mount.enter at h
    split at h
    · cases h
    split at h
    · cases h
    · cases h; rfl
  · cases h; rfl

theorem framed_enter (h : site.enter request = .error response) : Framed response := by
  unfold enter at h
  split at h
  · unfold Mount.enter at h
    split at h
    · cases h; exact .ofStatus 404
    split at h
    · cases h; exact .ofStatus 400
    · cases h
  · cases h

theorem framed_serve (hmethod : inner.method ≠ .head) (h : site.serve disk inner = .ok response) :
    Framed response := by
  unfold serve at h
  split at h
  · cases h
  split at h
  · cases h; exact .ofData ..
  split at h
  · exact framed_sendIndex h
  · cases h
    refine FileService.framed_respond disk _ ?_
    simp only [fileRequest, if_neg hmethod]
    decide
  · cases h

/-- Every response to a request for data announces its length in one of these ways. -/
theorem answer_framed (site : Site) (disk : Disk) (hmethod : request.method ≠ .head) :
    Framed (site.answer disk request).1 := by
  unfold answer
  cases he : site.enter request with
  | error response => exact framed_enter he
  | ok inner =>
    have hinner : inner.method ≠ .head := by rwa [enter_method he]
    cases hs : site.serve disk inner with
    | ok response => simpa [hs] using framed_serve hinner hs
    | error e => simpa [hs] using e.framed_response

end Site

/-! ## Responses as they are sent -/

namespace Response

variable {request : Request} {response : Response Body}

/-- The length of data in memory is added. -/
theorem sent_length_whole {data : Bytes} (hbody : response.body = .whole data)
    (hlength : response.header? "content-length" = none) :
    (response.sent request).header? "content-length" = some (toString data.length) := by
  have hsize : response.body.size? = some data.length := by
    rw [hbody]
    simp [Body.size?, Body.sizeHint]
  rw [header?, sent_headers, withLength, hlength, hsize]
  rfl

/-- A length that is given stays. -/
theorem sent_length_given {length : String} (hlength : response.header? "content-length" = some length) :
    (response.sent request).header? "content-length" = some length := by
  rw [header?, sent_headers, withLength, hlength]
  exact hlength

end Response

end SinglePage
