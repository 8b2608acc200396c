/-
Settings of the server. They are read from layers of values (defaults, the environment, overrides),
each variable of the environment being one value under its name in lower case, and are validated
before anything else happens.
-/
import SinglePage.DiskPath
import SinglePage.EnvModule
import SinglePage.Settings.Value
import SinglePage.SocketAddress
import SinglePage.Text.Blank
import SinglePage.Text.LowerCase
import SinglePage.Text.Quoted

namespace SinglePage

/-- The settings of a server. -/
structure Settings where
  /-- The socket address to listen at. -/
  listenAddr : String := "0.0.0.0:3000"
  /-- What all request paths start with, or "/". -/
  basePath : String := "/admin"
  /-- The directory of the assets. -/
  staticDir : String := "build"
  /-- The root document, seen from the directory of the assets. -/
  indexFile : String := "index.html"
  /-- What the names of exported variables start with. -/
  envExportPrefix : String := "PUBLIC_"
  /-- What is logged. -/
  logLevel : String := "info"
  deriving DecidableEq, Repr

namespace Settings

open Text

/-! ## Errors -/

/-- Why there are no settings. -/
inductive Error where
  /-- A name or a value of the environment is no text. -/
  | notText
  /-- An index names no place in its list. -/
  | noSuchPlace
  | wrongKind (kind name : String)
  | listenAddr (text : String)
  | basePathStart (text : String)
  | basePathEnd (text : String)
  | blank (name : String)
  | indexOutside (text : String)
  deriving DecidableEq, Repr

/-- The causes of an error, each the reason of the one before it. -/
def Error.causes : Error → List String
  | .notText => ["the environment holds what is not text"]
  | .noSuchPlace => ["an index names no place in its list"]
  | .wrongKind kind name =>
    ["failed to deserialise configuration",
      "invalid type: " ++ kind ++ ", expected a string for key \x60" ++ name ++ "\x60"]
  | .listenAddr text =>
    ["LISTEN_ADDR " ++ quoted text ++ " is not a valid socket address",
      "invalid socket address syntax"]
  | .basePathStart text => ["BASE_PATH must start with '/', got " ++ quoted text]
  | .basePathEnd text => ["BASE_PATH must not end with '/', got " ++ quoted text]
  | .blank name => [name ++ " is required and must not be empty"]
  | .indexOutside text =>
    ["INDEX_FILE must be a relative path inside STATIC_DIR, got " ++ quoted text]

/-- The causes of an error on one line. -/
def Error.message (e : Error) : String := ": ".intercalate e.causes

/-- The error ends the program at once, whatever it is doing. -/
def Error.isAbrupt (e : Error) : Bool := e == .notText || e == .noSuchPlace

/-! ## Layers -/

/-- A layer of values. -/
inductive Layer where
  /-- A value that counts where no other layer has one. -/
  | default (key : Key) (value : Value)
  /-- The variables of an environment. -/
  | environment (vars : List RawVariable)
  /-- A value that counts before all others. -/
  | override (key : Key) (value : Value)

/-- The variables of an environment by name in lower case. All names and values must be text. -/
def collect (vars : List RawVariable) : Except Error (List (String × String)) :=
  vars.mapM fun v =>
    match Bytes.text? v.name, Bytes.text? v.value with
    | some name, some value => .ok (lowerCase name, value)
    | _, _ => .error .notText

/-- The key of a variable: its name as a whole, if it does not spell a key. -/
def variableKey (name : String) : Key := (Key.parse? name).getD ⟨name, []⟩

/-- Puts values at keys, one after another. -/
def assignAll (s : Store) (values : List (Key × Value)) : Except Error Store :=
  values.foldlM (fun s v => (s.assign v.1 v.2).elim (.error .noSuchPlace) .ok) s

/-- The values that stand last at their keys. -/
def lastValues (values : List (Key × Value)) : List (Key × Value) :=
  values.reverse.foldl (fun kept v => if kept.any (·.1 = v.1) then kept else v :: kept) []

/-- Puts the variables of an environment, in their order. The library of the settings keeps them in a hash
map, so that there it is not settled which of `BASE_PATH` and `BASE_PATH.X` is put last; here the order of
the environment settles it. -/
def assignVariables (s : Store) (vars : List RawVariable) : Except Error Store := do
  assignAll s ((← collect vars).map fun v => (variableKey v.1, .text v.2))

/-- The values of all layers. What environments hold is put together first, and then put, name by
name, over the defaults; overrides come last. -/
def build (layers : List Layer) : Except Error Store := do
  let defaults := layers.filterMap fun
    | .default key value => some (key, value)
    | _ => none
  let environments := layers.filterMap fun
    | .environment vars => some vars
    | _ => none
  let overrides := layers.filterMap fun
    | .override key value => some (key, value)
    | _ => none
  let held ← assignAll [] (lastValues defaults)
  let vars ← environments.foldlM assignVariables []
  let held ← assignAll held (vars.map fun v => (⟨v.1, []⟩, v.2))
  assignAll held (lastValues overrides)

/-! ## Fields -/

/-- The text of a setting, or its default. -/
def field (s : Store) (name default : String) : Except Error String :=
  match s.get? name with
  | none => .ok default
  | some value =>
    match value.text? with
    | some text => .ok text
    | none => .error (.wrongKind value.kind name)

/-- The settings that values make up. -/
def ofStore (s : Store) : Except Error Settings := do
  let d : Settings := {}
  return {
    listenAddr := ← field s "listen_addr" d.listenAddr
    basePath := ← field s "base_path" d.basePath
    staticDir := ← field s "static_dir" d.staticDir
    indexFile := ← field s "index_file" d.indexFile
    envExportPrefix := ← field s "env_export_prefix" d.envExportPrefix
    logLevel := ← field s "log_level" d.logLevel }

/-! ## Validation -/

/-- The address to listen at. -/
def socketAddress (s : Settings) : Except Error SocketAddress :=
  match SocketAddress.parse? s.listenAddr with
  | some address => .ok address
  | none => .error (.listenAddr s.listenAddr)

/-- What is cut off all request paths, unless the server is mounted at the root. -/
def mountPath? (s : Settings) : Option String := if s.basePath = "/" then none else some s.basePath

/-- The address can be listened at, the base path starts with a slash and does not end with another,
nothing needed is blank, and the root document lies inside the directory of the assets. -/
def validate (s : Settings) : Except Error Unit := do
  discard s.socketAddress
  if s.basePath.toList.head? ≠ some '/' then throw (.basePathStart s.basePath)
  if 1 < s.basePath.length ∧ s.basePath.toList.getLast? = some '/' then
    throw (.basePathEnd s.basePath)
  if isBlank s.staticDir then throw (.blank "STATIC_DIR")
  if isBlank s.indexFile then throw (.blank "INDEX_FILE")
  if isBlank s.envExportPrefix then throw (.blank "ENV_EXPORT_PREFIX")
  if !(DiskPath.components s.indexFile).all (·.isName) then throw (.indexOutside s.indexFile)

/-- The valid settings that layers of values make up. -/
def ofLayers (layers : List Layer) : Except Error Settings := do
  let s ← ofStore (← build layers)
  s.validate
  return s

/-- The valid settings that an environment makes up. -/
def ofEnvironment (vars : List RawVariable) : Except Error Settings :=
  ofLayers [.environment vars]

end Settings

end SinglePage
