/-
The access log. Each request is logged once, when its body is done with: at the first poll that
finds the end or fails, or else when the body is dropped. Whether the transfer was completed is
part of the line.
-/
import SinglePage.Http.Message
import SinglePage.Log

namespace SinglePage

/-- What is known of a request once its response is there. -/
structure AccessEvent where
  client : String
  method : Method
  path : String
  version : Version
  status : Nat
  userAgent : String
  deriving DecidableEq, Repr

namespace AccessEvent

/-- What stands for a value that is not known. -/
def unknown : String := "-"

/-- The event of a request that is answered with a status. -/
def of (request : Request) (status : Nat) : AccessEvent where
  client := (request.client.map SocketAddress.text).getD unknown
  method := request.method
  path := request.uri.path
  version := request.version
  status
  userAgent := ((request.header? "user-agent").bind headerText?).getD unknown

/-- The line of the log. -/
def line (e : AccessEvent) (completed : Bool) : LogLine where
  level := .info
  target := "access"
  message := "request"
  fields := [("client", .text e.client), ("method", .text e.method.name), ("path", .text e.path),
    ("version", .text e.version.text), ("status", .number e.status), ("elapsed_ms", .elapsed),
    ("user_agent", .text e.userAgent), ("completed", .flag completed)]

end AccessEvent

/-- A body that logs its request, if it has not done so yet. -/
structure LoggedBody where
  inner : Body
  pending : Option AccessEvent
  deriving DecidableEq, Repr

namespace LoggedBody

/-- The body without the event that it was to log, and the line of that event. -/
def finish (b : LoggedBody) (completed : Bool) : LoggedBody × List LogLine :=
  ({ b with pending := none }, (b.pending.map (·.line completed)).toList)

/-- The next frame of the inner body. The end completes the transfer; a failure ends it. -/
def poll (b : LoggedBody) : Option Frame × LoggedBody × List LogLine :=
  let (frame, inner) := b.inner.poll
  let b := { b with inner }
  match frame with
  | none => (frame, b.finish true)
  | some (.failure _) => (frame, b.finish false)
  | some _ => (frame, b, [])

/-- What is logged when nobody needs the body any more. -/
def drop (b : LoggedBody) : List LogLine := (b.finish b.inner.isEnd).2

/-- The inner body tells that it has ended. -/
def isEnd (b : LoggedBody) : Bool := b.inner.isEnd

/-- The size that the inner body tells. -/
def sizeHint (b : LoggedBody) : Nat × Option Nat := b.inner.sizeHint

/-- The number of bytes, if the inner body tells it. -/
def size? (b : LoggedBody) : Option Nat := b.inner.size?

/-- Polls a number of times: what each poll yields, the body after them, and what they log. -/
def polls : Nat → LoggedBody → List (Option Frame) × LoggedBody × List LogLine
  | 0, b => ([], b, [])
  | n + 1, b =>
    let (frame, b, log) := b.poll
    let (frames, b, more) := polls n b
    (frame :: frames, b, log ++ more)

end LoggedBody

/-- The response to a request, with a body that logs the request. -/
def Response.logged (request : Request) (response : Response Body) : Response LoggedBody :=
  response.withBody ⟨response.body, some (.of request response.status)⟩

end SinglePage
