/-
Messages on a connection. A request is a head of lines up to an empty one; a body behind it is not
read. A response is a head, and the data of its body after it.
-/
import SinglePage.Http.Date
import SinglePage.Http.Message

namespace SinglePage.Wire

/-! ## Lines -/

/-- The first line, without what ends it, and what follows it. -/
def line? (data : Bytes) : Option (Bytes × Bytes) :=
  match data.span (· != '\n'.toUInt8) with
  | (_, []) => none
  | (line, _ :: rest) =>
    some (if line.getLast? = some '\r'.toUInt8 then line.dropLast else line, rest)

/-- The lines up to an empty one, where this is one of so many lines, and what follows it. -/
def lines? : Nat → Bytes → Option (List Bytes × Bytes)
  | 0, _ => none
  | n + 1, data => do
    let (line, rest) ← line? data
    if line = [] then return ([], rest)
    let (lines, rest) ← lines? n rest
    return (line :: lines, rest)

/-! ## Requests -/

/-- The versions that are spoken. -/
def version? (text : String) : Option Version := [Version.http10, .http11].find? (·.text = text)

/-- The first line of a request. -/
def requestLine? (line : Bytes) : Option (Method × Uri × Version) := do
  match line.splitOn ' '.toUInt8 with
  | [method, uri, version] =>
    let uri ← (Uri.parse (← Bytes.text? uri)).toOption
    return (← Method.parse? (← Bytes.text? method), uri, ← version? (← Bytes.text? version))
  | _ => none

/-- Blanks around the value of a header. -/
def isGap (b : UInt8) : Bool := b == ' '.toUInt8 || b == '\t'.toUInt8

/-- A header: its name in lower case, and its value. -/
def header? (line : Bytes) : Option (String × Bytes) := do
  match line.span (· != ':'.toUInt8) with
  | (_, []) => none
  | (name, _ :: value) =>
    let name ← Method.parse? (← Bytes.text? name)
    let value := ((value.dropWhile isGap).reverse.dropWhile isGap).reverse
    if isHeaderValue value then return (String.ofList (name.name.toList.map Char.toLower), value)
    else none

/-- The request whose head has these lines. -/
def request? : List Bytes → Option Request
  | [] => none
  | first :: fields => do
    let (method, uri, version) ← requestLine? first
    return { method, uri, version, headers := ← fields.mapM header? }

/-- The most bytes of a head. -/
def maxHead : Nat := 65536

/-- What is made of the data that has come in. -/
inductive Reading where
  /-- There is no whole head yet. -/
  | incomplete
  /-- A request, and what follows its head. -/
  | complete (request : Request) (rest : Bytes)
  /-- No request, which a status tells. -/
  | refused (status : Nat)
  deriving DecidableEq, Repr

/-- Reads a request. There are no more lines than bytes. -/
def read (data : Bytes) : Reading :=
  match lines? data.length data with
  | some (lines, rest) =>
    match request? lines with
    | some request => .complete request rest
    | none => .refused 400
  | none => if maxHead < data.length then .refused 431 else .incomplete

/-- The connection serves further requests: the client says nothing of its end, no body follows this
request, and where the response ends is known from its head. -/
def keepsOpen {β : Type} (request : Request) (response : Response β) : Bool :=
  request.version = .http11
    && ["connection", "content-length", "transfer-encoding"].all fun name =>
      (request.header? name).isNone
    && (response.header? "content-length").isSome

/-! ## Responses -/

/-- What statuses mean. -/
def reasons : List (Nat × String) :=
  [(200, "OK"), (206, "Partial Content"), (304, "Not Modified"), (400, "Bad Request"),
    (404, "Not Found"), (412, "Precondition Failed"), (416, "Range Not Satisfiable"),
    (431, "Request Header Fields Too Large"), (500, "Internal Server Error")]

/-- The head of a response. -/
def head {β : Type} (response : Response β) : Bytes :=
  let status := toString response.status ++ " " ++ (reasons.lookup response.status).getD ""
  let fields := response.headers.map fun h => h.1 ++ ": " ++ h.2 ++ "\r\n"
  Bytes.ofText ("HTTP/1.1 " ++ status ++ "\r\n" ++ String.join fields ++ "\r\n")

/-- A response as it goes out at a time: it is dated, and tells if the connection ends with it. -/
def outgoing {β : Type} (seconds : Nat) (keep : Bool) (response : Response β) : Response β :=
  let closing := if keep then [] else [("connection", "close")]
  { response with
    headers := ("date", (Date.ofSeconds seconds).text) :: closing ++ response.headers }

end SinglePage.Wire
