/-
The life of the server: it reads its settings, opens the assets, takes in the exported variables,
listens, and stops at a signal. What it logs on the way passes a filter; what stops it is reported
with all its causes.
-/
import SinglePage.Log.Filter
import SinglePage.Settings
import SinglePage.Site

namespace SinglePage

/-! ## Reports -/

namespace Report

/-- The lines of a text, the first after a mark and the others after blanks. -/
def indented (mark blanks text : String) : String :=
  mark ++ ("\n" ++ blanks).intercalate ((text.toList.splitOn '\n').map String.ofList)

/-- A cause with its number. -/
def numbered (n : Nat) (text : String) : String :=
  let digits := toString n
  indented ("".pushn ' ' (5 - digits.length) ++ digits ++ ": ") "       " text

/-- An error with its causes below it, numbered if there are several. -/
def text : List String → String
  | [] => ""
  | [e] => e
  | [e, cause] => e ++ "\n\nCaused by:\n" ++ indented "    " "    " cause
  | e :: causes =>
    e ++ "\n\nCaused by:" ++ String.join (causes.zipIdx.map fun c => "\n" ++ numbered c.2 c.1)

end Report

/-! ## Failures -/

/-- Why the server does not start. -/
inductive StartError where
  | settings (cause : Settings.Error)
  | assets (cause : AssetTree.Error)
  | bind (address : SocketAddress) (cause : SystemError)
  deriving DecidableEq, Repr

/-- The causes of a failure, each the reason of the one before it. -/
def StartError.causes : StartError → List String
  | .settings cause => cause.causes
  | .assets cause =>
    "failed to open frontend asset directory" :: cause.message ::
      match cause with
      | .inaccessible _ e => [e.message]
      | .notADirectory _ => []
  | .bind address cause => ["failed to bind " ++ address.text, cause.message]

/-- The report of a failure. -/
def StartError.report (e : StartError) : String := Report.text e.causes

namespace Startup

/-! ## What is logged -/

/-- The part of the program that these lines come from. -/
def target : String := "spa_server"

/-- A line of the life of the server. -/
def note (message : String) (fields : List (String × LogValue)) : LogLine :=
  ⟨.info, target, message, fields⟩

/-- The settings are read. -/
def starting (s : Settings) : LogLine :=
  note "spa-server starting" [("version", .text "0.1.0"), ("listen_addr", .text s.listenAddr),
    ("base_path", .text s.basePath)]

/-- The assets are there. -/
def assetsOpened (s : Settings) : LogLine :=
  note "asset tree opened" [("static_dir", .text s.staticDir), ("index_file", .text s.indexFile)]

/-- The exported variables are taken in. -/
def environmentCaptured (s : Settings) (script : EnvModule) : LogLine :=
  note "public environment captured" [("prefix", .text s.envExportPrefix),
    ("exported", .number script.size)]

/-- Requests are awaited. -/
def listening (address : SocketAddress) : LogLine := note "listening" [("addr", .text address.text)]

/-- The server does not start. -/
def failed (e : StartError) : LogLine :=
  ⟨.error, target, "spa-server failed", [("error", .text e.report)]⟩

/-- A signal that stops the server. -/
inductive Signal where
  | interrupt
  | terminate
  deriving DecidableEq, Repr

/-- The name of a signal. -/
def Signal.name : Signal → String
  | .interrupt => "SIGINT"
  | .terminate => "SIGTERM"

/-- What is said of connections when the server stops listening. -/
def closing (message : String) : LogLine := ⟨.trace, "axum::serve", message, []⟩

/-- The server leaves at a signal, while so many connections are open. -/
def leaving (signal : Signal) (connections : Nat) : List LogLine :=
  [note (signal.name ++ " received, shutting down") [],
    closing "received graceful shutdown signal. Telling tasks to shutdown",
    closing "signal received, not accepting new connections",
    closing ("waiting for " ++ toString connections ++ " task(s) to finish")]

/-- The last connection is closed. -/
def stopped : LogLine := note "spa-server stopped" []

/-! ## Filters -/

/-- The value of a variable of the environment, if it is text. -/
def valueOf? (env : List RawVariable) (name : String) : Option String :=
  (textVariables env).lookup name

/-- The filter of the log, and what is said of parts of it that are passed over. The variable
`RUST_LOG` counts before the setting, if all of it can be read. -/
def filter (env : List RawVariable) (logLevel : String) : LogFilter × List String :=
  match (valueOf? env "RUST_LOG").bind LogFilter.parse? with
  | some filter => (filter, [])
  | none => LogFilter.parseLossy logLevel

/-! ## The run -/

/-- A server that is ready to listen. -/
structure Ready where
  settings : Settings
  site : Site
  address : SocketAddress

/-- Opens what the settings name: the server, or why it does not start, and what is logged on the
way. -/
def prepare (disk : Disk) (env : List RawVariable) (s : Settings) :
    Except StartError Ready × List LogLine :=
  match AssetTree.openAt disk s.staticDir s.indexFile with
  | .error e => (.error (.assets e), [starting s])
  | .ok assets =>
    let script := EnvModule.capture s.envExportPrefix env
    let log := [starting s, assetsOpened s, environmentCaptured s script]
    match s.socketAddress with
    | .error e => (.error (.settings e), log)
    | .ok address => (.ok ⟨s, ⟨assets, script, s.mountPath?⟩, address⟩, log)

/-- What a run of the server leaves behind. -/
structure Outcome where
  exitCode : Nat
  /-- The server listened. -/
  served : Bool
  log : List LogLine
  /-- What is reported beside the log. -/
  report : String
  deriving DecidableEq, Repr

/-- The report of a failure at the end of a run. -/
def finalReport (e : StartError) : String := "Error: " ++ e.report ++ "\n"

/-- The report of settings that cannot be used. -/
def settingsReport (e : Settings.Error) : String :=
  if e.isAbrupt then e.message ++ "\n"
  else "ERROR: configuration invalid: " ++ e.message ++ "\n" ++ finalReport (.settings e)

/-- The exit code after settings that cannot be used. -/
def settingsExitCode (e : Settings.Error) : Nat := if e.isAbrupt then 101 else 1

/-- A run on a host with this disk and this environment, where `bind` says which addresses can be
listened at, up to the signal that stops it. -/
def run (disk : Disk) (env : List RawVariable) (bind : SocketAddress → Except SystemError Unit)
    (signal : Signal) : Outcome :=
  match Settings.ofEnvironment env with
  | .error e => ⟨settingsExitCode e, false, [], settingsReport e⟩
  | .ok s =>
    let (filter, notes) := filter env s.logLevel
    let notes := String.join (notes.map (· ++ "\n"))
    let failure (e : StartError) (log : List LogLine) : Outcome :=
      ⟨1, false, (log ++ [failed e]).filter filter.admits, notes ++ finalReport e⟩
    match prepare disk env s with
    | (.error e, log) => failure e log
    | (.ok ready, log) =>
      match bind ready.address with
      | .error cause => failure (.bind ready.address cause) log
      | .ok () =>
        let log := log ++ [listening ready.address] ++ leaving signal 0 ++ [stopped]
        ⟨0, true, log.filter filter.admits, notes⟩

end Startup

end SinglePage
