/-
Whether the log tells a finished transfer from an abandoned one. For data in memory it does: the line of
the request says that the transfer was completed if and only if all bytes that the response announces were
sent. For a file it takes one poll more, the one that finds the end, and a reader that stops at the
announced length does not make that poll: its transfer is logged as abandoned (`respond_completed`).
-/
import SinglePage.Proofs.Site.Answers
import SinglePage.Proofs.Site.Framing

namespace SinglePage

/-- A number of polls, of which none fails, yields as many bytes as the response announces. -/
structure Response.SentBy (response : Response LoggedBody) (n : Nat) : Prop where
  length : response.header? "content-length" =
    some (toString (Body.delivered (response.body.polls n).1).length)
  failure : ∀ detail, some (.failure detail) ∉ (response.body.polls n).1

/-- The response with a range of an empty file. -/
def Response.IsEmptyRange (response : Response LoggedBody) : Prop :=
  response.status = 206 ∧ response.body.inner = .file []

/-- A file tells that it was sent after the poll that finds its end. -/
theorem Body.completes_of_isFile {body : Body} (h : body.isFile = true) (n : Nat) :
    (body.completes n = true ↔ none ∈ (body.polls n).1) ∧ (none ∈ (body.polls n).1 ↔ body.framesLeft < n) := by
  cases body with
  | file data => exact ⟨Body.completes_file data n, Body.none_mem_polls_file data n⟩
  | _ => cases h

namespace Response

variable {request : Request} {response : Response Body} {data : Bytes} {n : Nat}

theorem toString_eq_iff {m n : Nat} : some (toString m) = some (toString n) ↔ m = n := by
  rw [Option.some.injEq, Nat.toString_eq_ofList_toDigits, Nat.toString_eq_ofList_toDigits, String.ofList_inj]
  refine ⟨fun h => ?_, congrArg _⟩
  rw [← Nat.ofDigitChars_ten_toDigits (n := m), h, Nat.ofDigitChars_ten_toDigits]

theorem polls_sent (request : Request) (response : Response Body) (n : Nat) :
    ((response.sent request).body.polls n).1 = (response.body.polls n).1 := by
  rw [sent_body, LoggedBody.polls_fst]

/-- Where no poll fails, only the number of bytes counts. -/
theorem sentBy_iff {announced : Nat}
    (hlength : (response.sent request).header? "content-length" = some (toString announced))
    (hfailure : ∀ detail, some (.failure detail) ∉ (response.body.polls n).1) :
    (response.sent request).SentBy n ↔ (Body.delivered (response.body.polls n).1).length = announced := by
  constructor
  · rintro ⟨h, -⟩
    rw [hlength, polls_sent, toString_eq_iff] at h
    exact h.symm
  · intro h
    refine ⟨?_, ?_⟩
    · rw [hlength, polls_sent, h]
    · rwa [polls_sent]

/-- Data in memory is sent if and only if it has been yielded. -/
theorem sentBy_whole (hbody : response.body = .whole data) (hlength : response.header? "content-length" = none) :
    (response.sent request).SentBy n ↔ response.body.completes n = true := by
  have hfailure := Body.failure_not_mem_polls_whole data n
  rw [← hbody] at hfailure
  rw [sentBy_iff (sent_length_whole hbody hlength) hfailure, hbody, Body.completes_whole]

/-- The data of a file is sent by as many polls as it has frames, if it is announced. -/
theorem sentBy_file {announced : Nat} (hbody : response.body = .file data)
    (hlength : response.header? "content-length" = some (toString announced)) :
    (response.sent request).SentBy n ↔ (data.take (n * Body.frameSize)).length = announced := by
  have hfailure := Body.failure_not_mem_polls_file data n
  rw [← hbody] at hfailure
  rw [sentBy_iff (sent_length_given hlength) hfailure, hbody, Body.delivered_file]

/-- Whatever response has its data in memory, it is sent if and only if its body tells so. -/
theorem sentBy_of_memory (h : Framed response) (hmemory : response.body.isFile = false) :
    (response.sent request).SentBy n ↔ response.body.completes n = true := by
  rcases h with ⟨data, hbody, hlength⟩ | ⟨data, hbody, -, -⟩ | ⟨hbody, -, -⟩
  · exact sentBy_whole hbody hlength
  · rw [hbody] at hmemory; cases hmemory
  · rw [hbody] at hmemory; cases hmemory

/-- Whatever response has the data of a file, it is sent by as many polls as there are frames, unless it is
a range of an empty file. -/
theorem sentBy_of_isFile (h : Framed response) (hfile : response.body.isFile = true) :
    (response.sent request).SentBy n ↔
      response.body.framesLeft ≤ n ∧ ¬ (response.status = 206 ∧ response.body = .file []) := by
  rcases h with ⟨data, hbody, -⟩ | ⟨data, hbody, hlength, hrange⟩ | ⟨hbody, hlength, hpartial⟩
  · rw [hbody] at hfile; cases hfile
  · have hsent : (response.sent request).SentBy n ↔ (Body.file data).framesLeft ≤ n := by
      rw [sentBy_file hbody hlength, ← Body.delivered_file, Body.length_delivered_file]
    rw [hsent, hbody]
    refine (and_iff_left ?_).symm
    rintro ⟨hpartial, hempty⟩
    exact hrange ⟨hpartial, Body.file.inj hempty⟩
  · refine iff_of_false (fun h => ?_) fun h => h.2 ⟨hpartial, hbody⟩
    have hone := (sentBy_file hbody hlength).1 h
    simp at hone

end Response

namespace Site

/-- The response to any request for data is polled a number of times, and its body is dropped. The
request is logged once, as completed exactly if all bytes that the response announces were sent; but if
the body is read from a file, exactly if a poll has found its end, which is one poll more. A range of an
empty file is never sent, since the byte that is announced is not there. -/
theorem respond_completed (site : Site) (disk : Disk) {request : Request} (hmethod : request.method ≠ .head)
    (n : Nat) :
    let response := (site.respond disk request).1
    ∃ completed,
      response.body.lines n = [(AccessEvent.of request response.status).line completed] ∧
      (response.body.inner.isFile = false → (completed = true ↔ response.SentBy n)) ∧
      (response.body.inner.isFile = true →
        (completed = true ↔ none ∈ (response.body.polls n).1) ∧
        (none ∈ (response.body.polls n).1 ↔ response.body.inner.framesLeft < n) ∧
        (response.SentBy n ↔ response.body.inner.framesLeft ≤ n ∧ ¬ response.IsEmptyRange)) := by
  intro response
  let answer := (site.answer disk request).1
  have hframed : Framed answer := answer_framed site disk hmethod
  have hinner : response.body.inner = answer.body := by
    rw [show response.body = _ from Response.sent_body request answer]
  have hstatus : response.status = answer.status := Response.sent_status request answer
  have hpolls : (response.body.polls n).1 = (answer.body.polls n).1 := Response.polls_sent request answer n
  refine ⟨answer.body.completes n, ?_, fun hmemory => ?_, fun hfile => ?_⟩
  · exact respond_lines site disk request n
  · rw [hinner] at hmemory
    exact (Response.sentBy_of_memory hframed hmemory).symm
  · rw [hinner] at hfile
    obtain ⟨htold, hend⟩ := Body.completes_of_isFile hfile n
    rw [hpolls, hinner, Response.IsEmptyRange, hstatus, hinner]
    exact ⟨htold, hend, Response.sentBy_of_isFile hframed hfile⟩

/-- A file of two bytes is sent by one poll, and logged as abandoned. -/
theorem respond_completed_atLength :
    let t : FileTree := ⟨[(["www"], .directory), (["www", "a.js"], .file [60, 61] 0)]⟩
    let site : Site := ⟨⟨"/www", "/www/index.html"⟩, .empty, none⟩
    let request : Request := { uri := .originForm ⟨"/a.js", none⟩ }
    let response := (site.respond (t.disk []) request).1
    response.SentBy 1 ∧ response.body.lines 1 = [(AccessEvent.of request 200).line false] := by
  intro t site request response
  have hinner : response.body.inner = .file [60, 61] := by decide +kernel
  have hstatus : response.status = 200 := by decide +kernel
  have hmethod : request.method ≠ .head := by decide
  obtain ⟨completed, hline, -, hfile⟩ := respond_completed site (t.disk []) hmethod 1
  obtain ⟨hcompleted, hend, hsent⟩ := hfile (by rw [hinner]; rfl)
  have hleft : response.body.inner.framesLeft = 1 := by rw [hinner]; rfl
  refine ⟨hsent.2 ⟨hleft.le, fun h => ?_⟩, ?_⟩
  · rw [Response.IsEmptyRange, hstatus] at h
    exact absurd h.1 (by decide)
  · have hopen : completed = false := by
      rw [← Bool.not_eq_true, hcompleted, hend, hleft]
      exact lt_irrefl 1
    rw [hline, hstatus, hopen]

end Site

end SinglePage
