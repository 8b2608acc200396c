/-
The program. It reads the environment, the clock and the disk, and talks to the clients; what it
answers and what it logs is decided elsewhere.
-/
import SinglePage.Http.Wire
import SinglePage.Log.Text
import SinglePage.Startup
import Std.Internal.UV.Signal
import Std.Internal.UV.TCP
import Std.Time.DateTime.Timestamp

namespace SinglePage.Host

open Std.Internal.UV.TCP (Socket)

/-! ## Errors -/

/-- The number of an error, which some parts of the system report as a negative one. -/
def errorCode (n : UInt32) : SystemError := .code n.toInt32.toInt.natAbs

/-- What the system reports. -/
def systemError : IO.Error → SystemError
  | .alreadyExists _ n _ | .otherError n _ | .resourceBusy n _ | .resourceVanished n _
  | .unsupportedOperation n _ | .hardwareFault n _ | .unsatisfiedConstraints n _
  | .illegalOperation n _ | .protocolError n _ | .timeExpired n _ | .interrupted _ n _
  | .noFileOrDirectory _ n _ | .invalidArgument _ n _ | .permissionDenied _ n _
  | .resourceExhausted _ n _ | .inappropriateType _ n _ | .noSuchThing _ n _ => errorCode n
  | e => .other (toString e)

/-! ## The disk -/

/-- A file that has been opened. One that cannot be read is taken for a handle. -/
def readOpened (file : IO.FS.Handle) : IO OpenFile := do
  try return ⟨(← file.readBinToEnd).toList, true⟩
  catch _ => return ⟨[], false⟩

/-- What comes of opening a file. -/
def openFile (path : String) : IO (Except SystemError OpenFile) := do
  try return .ok (← readOpened (← IO.FS.Handle.mk path .read))
  catch e => return .error (systemError e)

/-- What a path leads to. Of devices only the one without data is known. -/
def find (path : String) : IO (Except SystemError Found) := do
  if path = "" then return .error .notFound
  if path.toList.contains '\x00' then return .error .nulInName
  try
    let path := (← IO.currentDir) / path
    let info ← path.metadata
    match info.type with
    | .dir => return .ok .directory
    | .file => return .ok (.file (← openFile path.toString) info.modified.sec.toNat)
    | _ => return .ok (.device [])
  catch e => return .error (systemError e)

/-- The disk as far as these paths lead. -/
def diskAt (paths : List String) : IO Disk :=
  return .ofFound (← paths.mapM fun path => return (path, ← find path))

/-! ## The log -/

/-- Writes the lines that pass a filter, some time after the arrival of what they are about. -/
def log (filter : LogFilter) (arrival : Nat) (lines : List LogLine) : IO Unit := do
  let micros := (← Std.Time.Timestamp.now).toNanosecondsSinceUnixEpoch.val.toNat / 1000
  let elapsed := (← IO.monoNanosNow) - arrival
  let out ← IO.getStdout
  out.putStr (String.join ((lines.filter filter.admits).map (·.text micros elapsed)))
  out.flush

/-! ## Sockets -/

/-- Waits for what a socket has been asked for. -/
def await {α : Type} (answer : IO.Promise (Except IO.Error α)) : IO α := do
  match ← IO.wait answer.result? with
  | some (.ok a) => return a
  | some (.error e) => throw e
  | none => throw (IO.userError "the socket is gone")

/-- Sends data. -/
def send (socket : Socket) (data : Bytes) : IO Unit := do
  await (← socket.send #[⟨data.toArray⟩])

/-- An address as sockets have it. -/
def hostAddress : SocketAddress → Std.Net.SocketAddress
  | .v4 a b c d port => .v4 ⟨.ofParts a b c d, port⟩
  | .v6 groups _ port =>
    let g (i : Nat) := groups.getD i 0
    .v6 ⟨.ofParts (g 0) (g 1) (g 2) (g 3) (g 4) (g 5) (g 6) (g 7), port⟩

/-- The address that a socket has. -/
def socketAddress : Std.Net.SocketAddress → SocketAddress
  | .v4 a => .v4 a.addr.octets[0] a.addr.octets[1] a.addr.octets[2] a.addr.octets[3] a.port
  | .v6 a => .v6 a.addr.segments.toList 0 a.port

/-- Listens at an address. -/
def listen (address : SocketAddress) : IO (Except SystemError Socket) := do
  try
    let socket ← Socket.new
    socket.bind (hostAddress address)
    socket.listen 1024
    return .ok socket
  catch e => return .error (systemError e)

/-! ## Connections -/

/-- A server at work: what it serves and logs, and the task that ends when it is to stop. -/
structure Server where
  site : Site
  filter : LogFilter
  stop : Task Unit

/-- The next data of a connection; none at its end, or when the server is to stop. -/
def receive (server : Server) (socket : Socket) : IO (Option Bytes) := do
  let answer ← socket.recv? 16384
  let data := answer.result?.map fun
    | some (.ok data) => data.map (·.toList)
    | _ => none
  let received ← IO.waitAny [data, server.stop.map fun _ => none]
  if received.isNone then socket.cancelRecv
  return received

/-- Reads a request, after data that is there already. -/
partial def readRequest (server : Server) (socket : Socket) (data : Bytes) : IO Wire.Reading := do
  match Wire.read data with
  | .incomplete =>
    match ← receive server socket with
    | some more => readRequest server socket (data ++ more)
    | none => return .incomplete
  | reading => return reading

/-- Sends what is left of a body, and logs what there is to log of it. -/
partial def sendBody (server : Server) (socket : Socket) (arrival : Nat) (body : LoggedBody) :
    IO Unit := do
  let (frame, body, lines) := body.poll
  log server.filter arrival lines
  match frame with
  | some (.data data) =>
    try send socket data
    catch e => log server.filter arrival body.drop; throw e
    sendBody server socket arrival body
  | some (.trailers _) => sendBody server socket arrival body
  | some (.failure detail) => throw (IO.userError detail)
  | none => return

/-- Answers a request, and tells whether the connection stays open. -/
def respond (server : Server) (socket : Socket) (request : Request) : IO Bool := do
  let arrival ← IO.monoNanosNow
  let (response, lines) := server.site.respond (← diskAt (server.site.consulted request)) request
  log server.filter arrival lines
  let keep := Wire.keepsOpen request response && !(← IO.hasFinished server.stop)
  let now ← Std.Time.Timestamp.now
  try send socket (Wire.head (Wire.outgoing now.toSecondsSinceUnixEpoch.val.toNat keep response))
  catch e => log server.filter arrival response.body.drop; throw e
  if request.method = .head then log server.filter arrival response.body.drop
  else sendBody server socket arrival response.body
  return keep

/-- Serves a connection up to its end, after data that is there already. -/
partial def serve (server : Server) (socket : Socket) (client : SocketAddress) (data : Bytes) :
    IO Unit := do
  match ← readRequest server socket data with
  | .complete request rest =>
    if ← respond server socket { request with client := some client } then
      serve server socket client rest
  | .refused status =>
    let now ← Std.Time.Timestamp.now
    let response := (Response.ofStatus status).withLength Body.size?
    send socket (Wire.head (Wire.outgoing now.toSecondsSinceUnixEpoch.val.toNat false response))
  | .incomplete => return

/-- Serves a connection and closes it. -/
def connection (server : Server) (socket : Socket) : IO Unit := do
  try serve server socket (socketAddress (← socket.getPeerName)) []
  finally await (← socket.shutdown)

/-! ## The server -/

/-- What a listening server waits for. -/
inductive Event where
  | signal (signal : Startup.Signal)
  | accepted (socket : Socket)
  | nothing

/-- A signal, once it comes. -/
def awaitSignal (number : Int32) (signal : Startup.Signal) : IO (Task Event) := do
  let waiter ← Std.Internal.UV.Signal.mk number true
  return (← waiter.next).result?.map fun
    | some _ => .signal signal
    | none => .nothing

/-- Accepts connections up to a signal: which one, and the connections that are still open. -/
partial def accept (server : Server) (listener : Socket) (signals : List (Task Event))
    (connections : List (Task (Except IO.Error Unit))) :
    IO (Startup.Signal × List (Task (Except IO.Error Unit))) := do
  let connections ← connections.filterM fun c => return !(← IO.hasFinished c)
  let answer ← listener.accept
  let accepted := answer.result?.map fun
    | some (.ok socket) => Event.accepted socket
    | _ => .nothing
  match ← IO.waitAny (accepted :: signals) with
  | .signal signal =>
    listener.cancelAccept
    return (signal, connections)
  | .accepted socket =>
    let task ← IO.asTask (connection server socket) .dedicated
    accept server listener signals (task :: connections)
  | .nothing =>
    IO.sleep 1000
    accept server listener signals connections

/-- Runs the server, and tells with which code it ends. -/
def run : IO UInt32 := do
  let env := variablesOfBlock (← IO.FS.readBinFile "/proc/self/environ").toList
  let errors ← IO.getStderr
  match Settings.ofEnvironment env with
  | .error e =>
    errors.putStr (Startup.settingsReport e)
    return UInt32.ofNat (Startup.settingsExitCode e)
  | .ok settings =>
    let (filter, notes) := Startup.filter env settings.logLevel
    errors.putStr (String.join (notes.map (· ++ "\n")))
    let note := log filter 0
    let fail (e : StartError) : IO UInt32 := do
      note [Startup.failed e]
      errors.putStr (Startup.finalReport e)
      return 1
    let (ready, lines) := Startup.prepare (← diskAt [settings.staticDir]) env settings
    note lines
    match ready with
    | .error e => fail e
    | .ok ready =>
      match ← listen ready.address with
      | .error cause => fail (.bind ready.address cause)
      | .ok listener =>
        let signals := [← awaitSignal 2 .interrupt, ← awaitSignal 15 .terminate]
        let stop ← IO.Promise.new
        let server := ⟨ready.site, filter, stop.result?.map fun _ => ()⟩
        note [Startup.listening ready.address]
        let (signal, connections) ← accept server listener signals []
        stop.resolve ()
        note (Startup.leaving signal connections.length)
        for c in connections do discard (IO.wait c)
        note [Startup.stopped]
        return 0

end SinglePage.Host

def main : IO UInt32 := SinglePage.Host.run
