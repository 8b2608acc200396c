/-
Serving below a mount. The path of a request must start with the mount, which is cut off. The
mount is compared as text, so it need not end where a segment of the path ends.
-/
import SinglePage.Http.Message

namespace SinglePage.Mount

/-- What follows `start` in a path, if the path starts with it. -/
def rest? (start path : String) : Option (List Char) :=
  if start.toList.isPrefixOf path.toList then some (path.toList.drop start.length) else none

/-- A path with a slash in front. -/
def rooted : List Char → String
  | '/' :: rest => String.ofList ('/' :: rest)
  | cs => String.ofList ('/' :: cs)

/-- The request as it is seen below the mount, or the response to a request that is not. -/
def enter (start : String) (request : Request) : Except (Response Body) Request :=
  match rest? start request.uri.path with
  | none => .error (.ofStatus 404)
  | some rest =>
    match request.uri.withPath? (rooted rest) with
    | none => .error (.ofStatus 400)
    | some uri => .ok { request with uri }

end SinglePage.Mount
