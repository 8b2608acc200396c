/-
Texts in messages. A text stands between quotes, on one line and without characters that cannot be
seen: these are escaped, by a letter or by number.
-/
import SinglePage.Text.Digits
import SinglePage.Text.Printable

namespace SinglePage.Text

/-- The escape of a character by its number. -/
def numberEscape (c : Char) : List Char :=
  ['\\', 'u', '{'] ++ Nat.toDigits 16 c.toNat ++ ['}']

/-- A character as it stands between quotes. -/
def quoteChar (c : Char) : List Char :=
  if c = '\x00' then ['\\', '0']
  else if c = '\t' then ['\\', 't']
  else if c = '\r' then ['\\', 'r']
  else if c = '\n' then ['\\', 'n']
  else if c = '"' ∨ c = '\\' then ['\\', c]
  else if isPrintable c then [c]
  else numberEscape c

/-- A text between quotes. -/
def quoted (s : String) : String :=
  String.ofList ('"' :: s.toList.flatMap quoteChar ++ ['"'])

end SinglePage.Text
