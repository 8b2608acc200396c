/-
Quoted strings of JSON. Quotes, backslashes and control characters are escaped, five of the latter
by a letter and the rest by four hexadecimal digits; every other character stands for itself. Main
statement: a quoted text reads back as itself, whatever follows it (`unquote?_quote_append`).
-/
import SinglePage.Text.Digits

namespace SinglePage.Json

open Text

/-! ## Writing -/

/-- A character as it stands between quotes. -/
def escape (c : Char) : List Char :=
  if c = '"' then ['\\', '"']
  else if c = '\\' then ['\\', '\\']
  else if c = '\x08' then ['\\', 'b']
  else if c = '\x0c' then ['\\', 'f']
  else if c = '\n' then ['\\', 'n']
  else if c = '\r' then ['\\', 'r']
  else if c = '\t' then ['\\', 't']
  else if c.toNat < 0x20 then
    ['\\', 'u', '0', '0', lowerHexDigit (c.toNat / 16), lowerHexDigit (c.toNat % 16)]
  else [c]

/-- A text between quotes. -/
def quote (cs : List Char) : List Char := '"' :: cs.flatMap escape ++ ['"']

/-! ## Reading -/

/-- The number that four hexadecimal digits stand for. -/
def hexNumber? (a b c d : Char) : Option Nat := do
  return 4096 * (← digit? 16 a) + 256 * (← digit? 16 b) + 16 * (← digit? 16 c) + (← digit? 16 d)

/-- The character that a letter stands for after a backslash. -/
def unescape? (c : Char) : Option Char :=
  if c = '"' ∨ c = '\\' ∨ c = '/' then some c
  else if c = 'b' then some '\x08'
  else if c = 'f' then some '\x0c'
  else if c = 'n' then some '\n'
  else if c = 'r' then some '\r'
  else if c = 't' then some '\t'
  else none

/-- Reads the rest of a quoted string: its text, and what follows the closing quote. A number that
is no character of its own (one half of a pair) is refused. -/
def unquoteRest? : List Char → Option (List Char × List Char)
  | [] => none
  | '"' :: rest => some ([], rest)
  | '\\' :: 'u' :: a :: b :: c :: d :: rest => do
    let n ← hexNumber? a b c d
    if n.isValidChar then
      let (text, rest) ← unquoteRest? rest
      return (Char.ofNat n :: text, rest)
    else none
  | '\\' :: c :: rest => do
    let c ← unescape? c
    let (text, rest) ← unquoteRest? rest
    return (c :: text, rest)
  | c :: rest =>
    if c = '\\' ∨ c.toNat < 0x20 then none
    else do
      let (text, rest) ← unquoteRest? rest
      return (c :: text, rest)

/-- Reads a quoted string: its text, and what follows it. -/
def unquote? : List Char → Option (List Char × List Char)
  | '"' :: rest => unquoteRest? rest
  | _ => none

/-! ## What is written reads back -/

theorem hexNumber?_hexDigits : ∀ n ∈ List.range 32,
    hexNumber? '0' '0' (lowerHexDigit (n / 16)) (lowerHexDigit (n % 16)) = some n := by
  decide

theorem unquoteRest?_escape_append (c : Char) (rest : List Char) :
    unquoteRest? (escape c ++ rest) = (unquoteRest? rest).map fun r => (c :: r.1, r.2) := by
  by_cases h₁ : c = '"'
  · subst h₁; simp [escape, unquoteRest?, unescape?]; cases unquoteRest? rest <;> rfl
  by_cases h₂ : c = '\\'
  · subst h₂; simp [escape, unquoteRest?, unescape?]; cases unquoteRest? rest <;> rfl
  by_cases h₃ : c = '\x08'
  · subst h₃; simp [escape, unquoteRest?, unescape?]; cases unquoteRest? rest <;> rfl
  by_cases h₄ : c = '\x0c'
  · subst h₄; simp [escape, unquoteRest?, unescape?]; cases unquoteRest? rest <;> rfl
  by_cases h₅ : c = '\n'
  · subst h₅; simp [escape, unquoteRest?, unescape?]; cases unquoteRest? rest <;> rfl
  by_cases h₆ : c = '\r'
  · subst h₆; simp [escape, unquoteRest?, unescape?]; cases unquoteRest? rest <;> rfl
  by_cases h₇ : c = '\t'
  · subst h₇; simp [escape, unquoteRest?, unescape?]; cases unquoteRest? rest <;> rfl
  by_cases h₈ : c.toNat < 0x20
  · have hn := hexNumber?_hexDigits c.toNat (List.mem_range.2 h₈)
    have hv : c.toNat.isValidChar := c.valid
    simp only [escape, h₁, h₂, h₃, h₄, h₅, h₆, h₇, h₈, if_false, if_true, List.cons_append,
      List.nil_append, unquoteRest?, hn, Option.bind_eq_bind, Option.bind_some, hv,
      Char.ofNat_toNat]
    cases unquoteRest? rest <;> rfl
  · simp only [escape, h₁, h₂, h₃, h₄, h₅, h₆, h₇, h₈, if_false, List.cons_append, List.nil_append]
    rw [unquoteRest?.eq_def]
    split <;> simp_all
    rw [if_neg (Nat.not_lt.2 h₈)]
    cases unquoteRest? _ <;> rfl

/-- A quoted text reads back as itself, whatever follows it. -/
theorem unquote?_quote_append (cs rest : List Char) :
    unquote? (quote cs ++ rest) = some (cs, rest) := by
  simp only [quote, List.cons_append, List.append_assoc, unquote?]
  induction cs with
  | nil => rfl
  | cons c cs ih =>
    rw [List.flatMap_cons, List.append_assoc, unquoteRest?_escape_append, ih]
    rfl

/-! ## Objects -/

/-- An object of members whose values are written, in the order given, without blanks. -/
def members (entries : List (String × List Char)) : List Char :=
  '{' :: [','].intercalate (entries.map fun e => quote e.1.toList ++ ':' :: e.2) ++ ['}']

/-- An object of texts. -/
def object (entries : List (String × String)) : List Char :=
  members (entries.map fun e => (e.1, quote e.2.toList))

end SinglePage.Json
