/-
Lines of the log. A line has a level, the part of the program that writes it, a message, and fields.
-/
namespace SinglePage

/-- How much a line of the log matters; the first matters most. -/
inductive LogLevel where
  | error
  | warn
  | info
  | debug
  | trace
  deriving DecidableEq, Repr

namespace LogLevel

/-- Zero for what matters most. -/
def rank : LogLevel → Nat
  | .error => 0
  | .warn => 1
  | .info => 2
  | .debug => 3
  | .trace => 4

/-- The name of a level. -/
def text : LogLevel → String
  | .error => "ERROR"
  | .warn => "WARN"
  | .info => "INFO"
  | .debug => "DEBUG"
  | .trace => "TRACE"

end LogLevel

/-- The value of a field. -/
inductive LogValue where
  | text (s : String)
  | number (n : Nat)
  | flag (b : Bool)
  /-- The time since the request arrived, which the writer of the log knows. -/
  | elapsed
  deriving DecidableEq, Repr

/-- A line of the log. -/
structure LogLine where
  level : LogLevel
  target : String
  message : String
  fields : List (String × LogValue)
  deriving DecidableEq, Repr

end SinglePage
