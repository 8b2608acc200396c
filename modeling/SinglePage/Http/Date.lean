/-
Dates of headers. A date is written in one form and read in three; it counts only if its day exists
and has the name given. Dates are the dates of seconds since the start of 1970.
-/
import SinglePage.Text.Blank
import SinglePage.Text.Digits

namespace SinglePage

/-- A second of a day. Months count from one, and weekdays from Sunday as zero. -/
structure Date where
  year : Nat
  month : Nat
  day : Nat
  hour : Nat
  minute : Nat
  second : Nat
  weekday : Nat
  deriving DecidableEq, Repr

namespace Date

open Text

/-! ## Dates and seconds -/

/-- Days from the first of March of the year zero to the first of January 1970. -/
def epochDay : Nat := 719468

/-- The date of a second. Years are counted from March, in eras of four hundred. -/
def ofSeconds (seconds : Nat) : Date :=
  let days := seconds / 86400
  let z := days + epochDay
  let dayOfEra := z % 146097
  let yearOfEra := (dayOfEra - dayOfEra / 1460 + dayOfEra / 36524 - dayOfEra / 146096) / 365
  let dayOfYear := dayOfEra - (365 * yearOfEra + yearOfEra / 4 - yearOfEra / 100)
  let monthFromMarch := (5 * dayOfYear + 2) / 153
  let month := if monthFromMarch < 10 then monthFromMarch + 3 else monthFromMarch - 9
  { year := yearOfEra + z / 146097 * 400 + if month ≤ 2 then 1 else 0
    month
    day := dayOfYear - (153 * monthFromMarch + 2) / 5 + 1
    hour := seconds % 86400 / 3600
    minute := seconds % 3600 / 60
    second := seconds % 60
    weekday := (days + 4) % 7 }

/-- The second that the fields of a date name, whatever its weekday. -/
def seconds (d : Date) : Nat :=
  let year := if d.month ≤ 2 then d.year - 1 else d.year
  let monthFromMarch := if d.month ≤ 2 then d.month + 9 else d.month - 3
  let dayOfYear := (153 * monthFromMarch + 2) / 5 + d.day - 1
  let days := year / 400 * 146097 + (year % 400 * 365 + year % 400 / 4 - year % 400 / 100)
    + dayOfYear - epochDay
  days * 86400 + d.hour * 3600 + d.minute * 60 + d.second

/-- The date is that of a second, of a year of four digits. -/
def isValid (d : Date) : Bool :=
  d.hour < 24 && d.minute < 60 && d.second < 60 && 1970 ≤ d.year && d.year ≤ 9999
    && ofSeconds d.seconds == d

/-! ## Writing -/

/-- Names of weekdays. -/
def weekdays : List String :=
  ["Sunday", "Monday", "Tuesday", "Wednesday", "Thursday", "Friday", "Saturday"]

/-- Names of weekdays in three letters. -/
def shortWeekdays : List String := weekdays.map fun w => String.ofList (w.toList.take 3)

/-- Names of months in three letters. -/
def months : List String :=
  ["Jan", "Feb", "Mar", "Apr", "May", "Jun", "Jul", "Aug", "Sep", "Oct", "Nov", "Dec"]

/-- The text of a date. -/
def text (d : Date) : String :=
  shortWeekdays.getD d.weekday "" ++ ", " ++ padded 2 d.day ++ " " ++
    months.getD (d.month - 1) "" ++ " " ++ padded 4 d.year ++ " " ++ padded 2 d.hour ++ ":" ++
    padded 2 d.minute ++ ":" ++ padded 2 d.second ++ " GMT"

/-! ## Reading -/

/-- The characters from a position on. -/
def slice (cs : List Char) (start length : Nat) : List Char := (cs.drop start).take length

/-- The number in the digits from a position on. -/
def numberAt? (cs : List Char) (start length : Nat) : Option Nat :=
  number? 10 (slice cs start length)

/-- The place of a name among names. -/
def nameAt? (names : List String) (cs : List Char) : Option Nat :=
  names.findIdx? fun name => name.toList = cs

/-- These characters stand at these positions. -/
def hasMarks (cs : List Char) (marks : List (Nat × String)) : Bool :=
  marks.all fun m => slice cs m.1 m.2.length = m.2.toList

/-- The month whose name, between two marks, starts at a position. -/
def monthAt? (cs : List Char) (start : Nat) (before after : String) : Option Nat :=
  (nameAt? (months.map fun m => before ++ m ++ after)
    (slice cs start (before.length + 3 + after.length))).map (· + 1)

/-- A date such as "Sun, 06 Nov 1994 08:49:37 GMT". -/
def parseFixed? (cs : List Char) : Option Date := do
  if cs.length ≠ 29 ∨ !hasMarks cs [(16, " "), (19, ":"), (22, ":"), (25, " GMT")] then none
  return {
    second := ← numberAt? cs 23 2
    minute := ← numberAt? cs 20 2
    hour := ← numberAt? cs 17 2
    day := ← numberAt? cs 5 2
    month := ← monthAt? cs 7 " " " "
    year := ← numberAt? cs 12 4
    weekday := ← nameAt? (shortWeekdays.map (· ++ ", ")) (slice cs 0 5) }

/-- A date such as "Sunday, 06-Nov-94 08:49:37 GMT". Its years lie between 1970 and 2069. -/
def parseLong? (cs : List Char) : Option Date := do
  let name := cs.takeWhile (· != ',')
  let weekday ← nameAt? weekdays name
  let cs := cs.drop name.length
  if cs.length ≠ 24 ∨ !hasMarks cs [(0, ", "), (14, ":"), (17, ":"), (20, " GMT")] then none
  let year ← numberAt? cs 9 2
  return {
    second := ← numberAt? cs 18 2
    minute := ← numberAt? cs 15 2
    hour := ← numberAt? cs 12 2
    day := ← numberAt? cs 2 2
    month := ← monthAt? cs 4 "-" "-"
    year := if year < 70 then year + 2000 else year + 1900
    weekday }

/-- A date such as "Sun Nov  6 08:49:37 1994". -/
def parseBlank? (cs : List Char) : Option Date := do
  if cs.length ≠ 24 ∨ !hasMarks cs [(10, " "), (13, ":"), (16, ":"), (19, " ")] then none
  return {
    second := ← numberAt? cs 17 2
    minute := ← numberAt? cs 14 2
    hour := ← numberAt? cs 11 2
    day := ← if slice cs 8 1 = [' '] then numberAt? cs 9 1 else numberAt? cs 8 2
    month := ← monthAt? cs 4 "" " "
    year := ← numberAt? cs 20 4
    weekday := ← nameAt? (shortWeekdays.map (· ++ " ")) (slice cs 0 4) }

/-- The date that a text spells, blanks around it aside. -/
def parse? (text : String) : Option Date :=
  let cs := trim text.toList
  if text.toList.all (·.val < 0x80) then
    ((parseFixed? cs).orElse fun _ => (parseLong? cs).orElse fun _ => parseBlank? cs).filter isValid
  else none

end Date

end SinglePage
