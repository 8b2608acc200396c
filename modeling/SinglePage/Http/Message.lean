/-
Requests and responses.
-/
import SinglePage.Body
import SinglePage.Http.Method
import SinglePage.SocketAddress
import SinglePage.Uri

namespace SinglePage

/-! ## Header values -/

/-- Characters that text of a header may hold: visible ones, the space and the tab. -/
def isHeaderTextByte (b : UInt8) : Bool := (0x20 ≤ b && b < 0x7f) || b == 0x09

/-- A header may hold these bytes: no control characters but the tab. -/
def isHeaderValue (value : Bytes) : Bool := value.all fun b => (0x20 ≤ b && b ≠ 0x7f) || b == 0x09

/-- The text of a header value, if it is visible text. -/
def headerText? (value : Bytes) : Option String :=
  if value.all isHeaderTextByte then Bytes.text? value else none

/-! ## Messages -/

/-- The version of a message. -/
inductive Version where
  | http09
  | http10
  | http11
  | http2
  | http3
  deriving DecidableEq, Repr

/-- The text of a version. -/
def Version.text : Version → String
  | .http09 => "HTTP/0.9"
  | .http10 => "HTTP/1.0"
  | .http11 => "HTTP/1.1"
  | .http2 => "HTTP/2.0"
  | .http3 => "HTTP/3.0"

/-- A request without its body, which nobody reads. Names of headers are in lower case. -/
structure Request where
  method : Method := .get
  uri : Uri
  version : Version := .http11
  headers : List (String × Bytes) := []
  client : Option SocketAddress := none
  deriving DecidableEq, Repr

/-- The first value of a header. -/
def Request.header? (r : Request) (name : String) : Option Bytes := r.headers.lookup name

/-- A response with a body of type `β`. Names of headers are in lower case. -/
structure Response (β : Type) where
  status : Nat
  headers : List (String × String)
  body : β
  deriving DecidableEq, Repr

namespace Response

/-- A response with a status and nothing else. -/
def ofStatus (status : Nat) : Response Body := ⟨status, [], .empty⟩

/-- A response with data of some type. -/
def ofData (status : Nat) (contentType : String) (data : Bytes) : Response Body :=
  ⟨status, [("content-type", contentType)], .whole data⟩

/-- A response with a plain text. -/
def ofPlain (status : Nat) (text : String) : Response Body :=
  ofData status "text/plain; charset=utf-8" (Bytes.ofText text)

/-- The value of a header. -/
def header? {β : Type} (r : Response β) (name : String) : Option String := r.headers.lookup name

/-- The same response with another body. -/
def withBody {β γ : Type} (r : Response β) (body : γ) : Response γ := ⟨r.status, r.headers, body⟩

/-- Adds the length of the body where it is known and not given. -/
def withLength {β : Type} (size? : β → Option Nat) (r : Response β) : Response β :=
  match r.header? "content-length", size? r.body with
  | none, some n => { r with headers := ("content-length", toString n) :: r.headers }
  | _, _ => r

end Response

end SinglePage
