/-
Answers as they are logged, and answers that are alike. However often a body is polled before it is dropped,
its request has one line in the access log (`respond_lines`). Two answers may be equal in all that is sent and
in what is logged of errors (`SameAnswer`), and their lines in the access log may be equal too, but for the
text of one field (`SameButFor`). A response is sent to all requests alike; what its body logs in the end tells
the requests apart by the fields that they differ in (`SameButFor.sent`).
-/
import SinglePage.Proofs.AccessLog.Polling
import SinglePage.Proofs.Site.Serving

namespace SinglePage

/-! ## The access log -/

theorem Response.lines_sent (request : Request) (response : Response Body) (n : Nat) :
    (response.sent request).body.lines n =
      [(AccessEvent.of request response.status).line (response.body.completes n)] := by
  rw [sent_body, LoggedBody.lines_eq]

/-- The line of a request has the status that it was answered with. -/
theorem Site.respond_lines (site : Site) (disk : Disk) (request : Request) (n : Nat) :
    (site.respond disk request).1.body.lines n =
      [(AccessEvent.of request (site.respond disk request).1.status).line
        ((site.answer disk request).1.body.completes n)] := by
  rw [respond_eq, Response.lines_sent, Response.sent_status]

/-! ## Equal answers -/

/-- The same line with another text in a field. -/
def LogLine.withField (line : LogLine) (name text : String) : LogLine :=
  { line with
    fields := line.fields.map fun field => if field.1 = name then (name, .text text) else field }

/-- Two answers are equal in all that is sent, and in what is logged of errors. -/
structure SameAnswer (a b : Response LoggedBody × List LogLine) : Prop where
  status : a.1.status = b.1.status
  headers : a.1.headers = b.1.headers
  body : a.1.body.inner = b.1.body.inner
  errors : a.2 = b.2

/-- An answer is another one, but for a field in the access log: whatever is sent and logged of errors is
the same, and however often the bodies are polled before they are dropped, their lines differ in the text
of that field only. -/
structure SameButFor (name text : String) (a b : Response LoggedBody × List LogLine) : Prop
    extends SameAnswer a b where
  access : ∀ n, a.1.body.lines n = (b.1.body.lines n).map (·.withField name text)

/-- A response is sent to all requests alike. -/
theorem SameAnswer.sent (request request' : Request) (response : Response Body) (log : List LogLine) :
    SameAnswer (response.sent request, log) (response.sent request', log) where
  status := by simp
  headers := by simp
  body := by simp
  errors := rfl

/-- Requests that differ in the text of a field are sent a response that is the same but for that field. -/
theorem SameButFor.sent {request request' : Request} {name text : String}
    (hline : ∀ status completed, (AccessEvent.of request status).line completed =
      ((AccessEvent.of request' status).line completed).withField name text)
    (response : Response Body) (log : List LogLine) :
    SameButFor name text (response.sent request, log) (response.sent request', log) where
  toSameAnswer := .sent ..
  access n := by
    rw [Response.lines_sent, Response.lines_sent, hline]
    rfl

end SinglePage
