/-
Filters of the log. A filter is a list of directives, each of which lets the lines of a target
pass up to a level. For a line, the most specific directive that is about it decides.
-/
import SinglePage.Bytes
import SinglePage.Log
import SinglePage.Log.Pattern
import SinglePage.Text.Alphanumeric
import SinglePage.Text.Blank
import SinglePage.Text.Digits

namespace SinglePage

/-! ## Levels -/

/-- The least important level that passes; without one, nothing does. -/
abbrev Threshold := Option LogLevel

namespace Threshold

/-- Names of thresholds, in the order of their numbers. -/
def names : List (String × Threshold) :=
  [("off", none), ("error", some .error), ("warn", some .warn), ("info", some .info),
    ("debug", some .debug), ("trace", some .trace)]

/-- A number, perhaps after a plus sign. -/
def number? : List Char → Option Nat
  | '+' :: digits => Text.number? 10 digits
  | digits => Text.number? 10 digits

/-- The threshold that a text names, by its name in any case or by its number. -/
def parse? (cs : List Char) : Option Threshold :=
  let byNumber := (number? cs).bind fun n => (names[n]?).map (·.2)
  byNumber.orElse fun _ => names.lookup (String.ofList (cs.map Char.toLower))

/-- Lines of a level pass. -/
def admits (t : Threshold) (level : LogLevel) : Bool := t.any (level.rank ≤ ·.rank)

end Threshold

/-! ## Directives -/

/-- Lets lines of a target, or of all targets, pass up to a threshold. A directive that names a
span, or a value of a field, is about lines inside spans only. -/
structure Directive where
  target : Option String
  span : Option String
  fields : List (String × Option String)
  threshold : Threshold
  deriving DecidableEq, Repr

namespace Directive

/-- Why a text is no directive. -/
inductive Error where
  | malformed
  | unknownLevel
  /-- The value of a field is no number, and no pattern that can be used. -/
  | badValue (cause : Pattern.Error)
  deriving DecidableEq, Repr

/-- The text of an error. -/
def Error.message : Error → String
  | .malformed => "invalid filter directive"
  | .unknownLevel => "error parsing level filter: expected one of \"off\", \"error\", \"warn\", " ++
      "\"info\", \"debug\", \"trace\", or a number 0-5"
  | .badValue cause => "invalid field filter: " ++ cause.message

/-- What is being read of a directive. Numbers are positions at which a part starts, in bytes. -/
inductive Stage where
  | start
  | levelOrTarget (first : Nat)
  | span (first : Nat)
  | field (first : Nat)
  | afterFields
  | afterSpan
  | level (first : Nat)
  deriving DecidableEq, Repr

/-- Characters that a directive without a span may start with. -/
def isStartChar (c : Char) : Bool := Text.isAlphanumeric c || c == '-' || c == ':' || c == '_'

/-- The text that the bytes from one position to another spell; none if they do not spell one. -/
def part (text : Bytes) (first last : Nat) : String :=
  (Bytes.text? ((text.drop first).take (last - first))).getD ""

/-- A text is a number without its sign: digits, perhaps with a point among them and an exponent
behind them, or a word. -/
def isMagnitude (cs : List Char) : Bool :=
  let isMantissaChar (c : Char) : Bool := c.isDigit || c == '.'
  let mantissa := cs.takeWhile isMantissaChar
  let isMantissa := mantissa.any Char.isDigit && mantissa.count '.' ≤ 1
  let isExponent : List Char → Bool
    | [] => true
    | e :: rest =>
      let digits := if rest.head? = some '+' ∨ rest.head? = some '-' then rest.drop 1 else rest
      (e == 'e' || e == 'E') && digits ≠ [] && digits.all Char.isDigit
  (isMantissa && isExponent (cs.dropWhile isMantissaChar)) ||
    ["inf", "infinity", "nan"].contains (String.ofList (cs.map Char.toLower))

/-- A text is a number. -/
def isNumber : List Char → Bool
  | '+' :: cs | '-' :: cs => isMagnitude cs
  | cs => isMagnitude cs

/-- The value of a field is a number or a pattern. -/
def checkValue (value : List Char) : Except Error Unit :=
  if isNumber value then .ok ()
  else (Pattern.check (String.ofList value)).mapError .badValue

/-- A field, and its value if one is given. -/
def field? (text : String) : Except Error (String × Option String) :=
  if text = "" then .error .malformed
  else
    match text.toList.splitOn '=' with
    | name :: value :: _ => do
      checkValue value
      return (String.ofList name, some (String.ofList value))
    | _ => .ok (text, none)

/-- The threshold in a text, the lowest for none. -/
def thresholdOf (text : String) : Except Error Threshold :=
  if text = "" then .ok (some .trace)
  else
    match Threshold.parse? text.toList with
    | some t => .ok t
    | none => .error .unknownLevel

/-- Takes in the character at a position. -/
def step (text : Bytes) (i : Nat) (c : Char) :
    Stage × Directive → Except Error (Stage × Directive)
  | (.start, d) =>
    if c = '[' then .ok (.span (i + 1), d)
    else if isStartChar c then .ok (.levelOrTarget i, d)
    else .error .malformed
  | (.levelOrTarget first, d) =>
    if c = '=' then .ok (.level (i + 1), { d with target := some (part text first i) })
    else if c = '[' then .ok (.span (i + 1), { d with target := some (part text first i) })
    else .ok (.levelOrTarget first, d)
  | (.span first, d) =>
    if c = ']' then .ok (.afterSpan, { d with span := some (part text first i) })
    else if c = '{' then
      let name := part text first i
      .ok (.field (i + 1), { d with span := if name = "" then none else some name })
    else .ok (.span first, d)
  | (.field first, d) =>
    if c = '}' then do
      let field ← field? (part text first i)
      return (.afterFields, { d with fields := d.fields ++ [field] })
    else .ok (.field first, d)
  | (.afterFields, d) => if c = ']' then .ok (.afterSpan, d) else .error .malformed
  | (.afterSpan, d) => if c = '=' then .ok (.level (i + 1), d) else .error .malformed
  | (.level first, d) => .ok (.level first, d)

/-- Takes in characters from a position on. -/
def steps (text : Bytes) : Nat → List Char → Stage × Directive → Except Error (Stage × Directive)
  | _, [], state => .ok state
  | i, c :: rest, state => do steps text (i + c.utf8Size) rest (← step text i c state)

/-- The directive once all characters are taken in. -/
def complete (text : Bytes) : Stage × Directive → Except Error Directive
  | (.levelOrTarget first, d) =>
    let rest := part text first text.length
    match Threshold.parse? rest.toList with
    | some threshold => .ok { d with threshold }
    | none => .ok { d with target := some rest }
  | (.level first, d) =>
    (thresholdOf (part text first text.length)).map fun threshold => { d with threshold }
  | (.afterSpan, d) => .ok d
  | _ => .error .malformed

/-- The directive that a text spells. Blanks around it are passed over, but its parts are taken from
where they would stand without blanks in front. -/
def parse (text : String) : Except Error Directive := do
  let start : Directive := ⟨none, none, [], some .trace⟩
  let bytes := Bytes.ofText text
  complete bytes (← steps bytes 0 (Text.trim text.toList) (.start, start))

/-- The directive is about lines outside spans, too. -/
def isPlain (d : Directive) : Bool := d.span.isNone && d.fields.all (·.2.isNone)

/-- The directive is about a line. -/
def concerns (d : Directive) (l : LogLine) : Bool :=
  d.target.all (·.toList.isPrefixOf l.target.toList) &&
    d.fields.all fun f => f.1 = "message" || l.fields.any (·.1 = f.1)

/-- What makes a directive specific: a target, the longer the more, then how many fields it names.
-/
def weight (d : Directive) : Nat × Nat :=
  (d.target.elim 0 fun t => t.utf8ByteSize + 1, d.fields.length)

/-- The first directive counts before the second: it is more specific, or as specific with names of
fields that come later in the order of texts. -/
def countsBefore (a b : Directive) : Bool :=
  b.weight.1 < a.weight.1 ||
    (a.weight.1 == b.weight.1 && (b.weight.2 < a.weight.2 ||
      (a.weight.2 == b.weight.2 && b.fields.map (·.1) < a.fields.map (·.1))))

end Directive

/-! ## Filters -/

/-- A filter of the log. -/
abbrev LogFilter := List Directive

namespace LogFilter

/-- The texts of directives between commas. -/
def parts (text : String) : List String :=
  ((text.toList.splitOn ',').filter (· ≠ [])).map String.ofList

/-- The filter that a text spells, if each of its parts is a directive. -/
def parse? (text : String) : Option LogFilter :=
  ((parts text).mapM Directive.parse).toOption

/-- The directive of a filter that spells none: it lets errors pass. -/
def errorsOnly : Directive := ⟨none, none, [], some .error⟩

/-- The filter of the parts of a text that are directives, and what is said of the other parts. -/
def parseLossy (text : String) : LogFilter × List String :=
  let read := (parts text).map fun p => (p, Directive.parse p)
  let filter := read.filterMap (·.2.toOption)
  let notes := read.filterMap fun
    | (_, .ok _) => none
    | (p, .error e) => some ("ignoring \x60" ++ p ++ "\x60: " ++ e.message)
  (if filter = [] then [errorsOnly] else filter, notes)

/-- The directive about a line that counts before all others; of two of the same kind, the later. -/
def decisive? (filter : LogFilter) (l : LogLine) : Option Directive :=
  (filter.filter fun d => d.isPlain && d.concerns l).foldl
    (fun best d => if best.any (·.countsBefore d) then best else some d) none

/-- The line passes. -/
def admits (filter : LogFilter) (l : LogLine) : Bool :=
  (filter.decisive? l).any (·.threshold.admits l.level)

end LogFilter

end SinglePage
