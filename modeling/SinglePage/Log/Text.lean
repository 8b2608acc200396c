/-
The log as it is written: each line is an object of JSON, with the time at which it is written.
-/
import SinglePage.Http.Date
import SinglePage.Json.Quoted
import SinglePage.Log

namespace SinglePage

open Text

/-- A time, given in microseconds since the start of 1970. -/
def timeText (micros : Nat) : String :=
  let d := Date.ofSeconds (micros / 1000000)
  padded 4 d.year ++ "-" ++ padded 2 d.month ++ "-" ++ padded 2 d.day ++ "T" ++ padded 2 d.hour ++
    ":" ++ padded 2 d.minute ++ ":" ++ padded 2 d.second ++ "." ++ padded 6 (micros % 1000000) ++
    "Z"

/-- The value of a field. The time since the request arrived is given in nanoseconds, and written in
milliseconds. -/
def LogValue.json (elapsed : Nat) : LogValue → List Char
  | .text s => Json.quote s.toList
  | .number n => Nat.toDigits 10 n
  | .flag b => (toString b).toList
  | .elapsed => Nat.toDigits 10 (elapsed / 1000000) ++ '.' :: (padded 6 (elapsed % 1000000)).toList

namespace LogLine

/-- The members of a line. The message is the first of its fields. -/
def members (micros elapsed : Nat) (l : LogLine) : List (String × List Char) :=
  [("timestamp", Json.quote (timeText micros).toList), ("level", Json.quote l.level.text.toList),
    ("fields", Json.members (("message", Json.quote l.message.toList) ::
      l.fields.map fun f => (f.1, f.2.json elapsed))),
    ("target", Json.quote l.target.toList)]

/-- The text of a line, written so many microseconds after the start of 1970, and so many
nanoseconds after the arrival of the request that it is about. -/
def text (micros elapsed : Nat) (l : LogLine) : String :=
  String.ofList (Json.members (l.members micros elapsed) ++ ['\n'])

end LogLine

end SinglePage
