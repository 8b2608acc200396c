/-
The script that hands environment variables to the client. The variables whose name starts with a
given text are exported, each name once with its last value, in the order of their names.
-/
import SinglePage.Bytes
import SinglePage.Json.Quoted

namespace SinglePage

/-- A variable of the environment as the system keeps it. -/
structure RawVariable where
  name : Bytes
  value : Bytes

/-- The variable in an entry, which has its name, '=' and its value. The name holds one byte at
least, whatever that is. -/
def RawVariable.ofEntry? : Bytes → Option RawVariable
  | [] => none
  | first :: entry =>
    match entry.span (· != '='.toUInt8) with
    | (_, []) => none
    | (name, _ :: value) => some ⟨first :: name, value⟩

/-- The variables in a block of entries with a NUL after each. -/
def variablesOfBlock (block : Bytes) : List RawVariable :=
  (block.splitOn 0).filterMap RawVariable.ofEntry?

/-- The variables whose name and value are text. -/
def textVariables (env : List RawVariable) : List (String × String) :=
  env.filterMap fun v => return (← Bytes.text? v.name, ← Bytes.text? v.value)

/-- The exported variables, by increasing name. -/
structure EnvModule where
  entries : List (String × String)
  deriving DecidableEq, Repr

namespace EnvModule

/-- Puts a variable into its place among sorted ones; an older value of the same name goes. -/
def insert (name value : String) : List (String × String) → List (String × String)
  | [] => [(name, value)]
  | e :: rest =>
    if name < e.1 then (name, value) :: e :: rest
    else if name = e.1 then (name, value) :: rest
    else e :: insert name value rest

/-- The export of the variables whose name starts with `start`. -/
def ofVariables (start : String) (vars : List (String × String)) : EnvModule where
  entries := (vars.filter fun v => start.toList.isPrefixOf v.1.toList).foldl
    (fun entries v => insert v.1 v.2 entries) []

/-- The export of an environment. Variables that are no text are left out. -/
def capture (start : String) (env : List RawVariable) : EnvModule :=
  ofVariables start (textVariables env)

/-- The export of no variable. -/
def empty : EnvModule := ⟨[]⟩

/-- The number of exported variables. -/
def size (m : EnvModule) : Nat := m.entries.length

/-- Nothing is exported. -/
def isEmpty (m : EnvModule) : Bool := m.entries.isEmpty

/-- What stands in front of the object of variables. -/
def heading : String := "export const env="

/-- The script. -/
def script (m : EnvModule) : String := heading ++ String.ofList (Json.object m.entries)

/-- The script as it is sent. -/
def body (m : EnvModule) : Bytes := Bytes.ofText m.script

end EnvModule

end SinglePage
