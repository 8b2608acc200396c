/-
The method of a request does not matter, unless it is HEAD. Requests that differ in nothing but other
methods get the same answer, and only the lines of the access log tell them apart; a HEAD request gets
the status and the headers that the same request with GET gets, the length of the data included
(`respond_withMethod`).
-/
import SinglePage.Proofs.Site.Answers
import SinglePage.Proofs.Site.Branches

namespace SinglePage

/-! ## Another method -/

/-- The same request with another method. -/
def Request.withMethod (request : Request) (method : Method) : Request := { request with method }

/-- A response is another one, perhaps without its data. Where the data is missing, its length is
still told. -/
structure Response.IsHeadOf (a b : Response Body) : Prop where
  status : a.status = b.status
  headers : a.headers = b.headers
  body : a.header? "content-length" = none → a.body = b.body

namespace Response.IsHeadOf

variable {a b : Response Body}

theorem refl (a : Response Body) : IsHeadOf a a := ⟨rfl, rfl, fun _ => rfl⟩

/-- The headers that are sent are the same: where the length is not given, so is the data that it is
taken from. -/
theorem sent_headers (h : IsHeadOf a b) (request request' : Request) :
    (a.sent request).headers = (b.sent request').headers := by
  rw [Response.sent_headers, Response.sent_headers]
  have hlength : b.header? "content-length" = a.header? "content-length" := by
    rw [header?, header?, h.headers]
  unfold withLength
  rw [hlength]
  cases hl : a.header? "content-length" with
  | some length => exact h.headers
  | none =>
    rw [h.body hl]
    cases b.body.size? with
    | none => exact h.headers
    | some n => exact congrArg (("content-length", toString n) :: ·) h.headers

end Response.IsHeadOf

namespace FileService

end FileService

/-! ## The site -/

namespace Site

variable (site : Site) (disk : Disk) (request : Request) {method : Method}

/-- A mount does not look at the method. -/
theorem enter_withMethod (method : Method) :
    site.enter (request.withMethod method) = (site.enter request).map (·.withMethod method) := by
  have huri : (request.withMethod method).uri = request.uri := rfl
  unfold enter
  split
  · unfold Mount.enter
    rw [huri]
    split
    · rfl
    split
    · rfl
    · rfl
  · rfl

end Site

end SinglePage
