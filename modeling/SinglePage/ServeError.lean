/-
Errors of single requests: what the client is told, and what is logged.
-/
import SinglePage.Http.Message
import SinglePage.Log
import SinglePage.RequestPath
import SinglePage.SystemError

namespace SinglePage

/-- Why a request cannot be served. -/
inductive ServeError where
  /-- The path of the request has no canonical form. -/
  | badRequest (cause : PathError)
  /-- An asset could not be read. -/
  | internal (context : String) (cause : SystemError)
  deriving DecidableEq, Repr

namespace ServeError

/-- The status of the response. -/
def status : ServeError → Nat
  | .badRequest _ => 400
  | .internal _ _ => 500

/-- The text of the error. -/
def message : ServeError → String
  | .badRequest cause => cause.message
  | .internal context cause => context ++ ": " ++ cause.message

/-- The text of what led to the error, where that is not the error itself. -/
def source? : ServeError → Option String
  | .badRequest _ => none
  | .internal _ cause => some cause.message

/-- All that a client is told of an internal error. -/
def internalText : String := "Internal server error"

/-- The response. -/
def response (e : ServeError) : Response Body :=
  match e with
  | .badRequest cause => .ofPlain e.status cause.message
  | .internal _ _ => .ofPlain e.status internalText

/-- The lines of the log, one for an internal error only. -/
def log : ServeError → List LogLine
  | .badRequest _ => []
  | .internal context cause =>
    [⟨.error, "spa_server::error", context, [("error", .text cause.message)]⟩]

end ServeError

end SinglePage
