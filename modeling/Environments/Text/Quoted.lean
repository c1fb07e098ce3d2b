import Environments.Text.Digits
import Environments.Text.Formless

/-!
# Quoted texts

A text inside a diagnostic stands between double quotes. The quote, the backslash and the characters
that have no visible form are escaped, so the quoted text is one line that shows where it ends.
-/

namespace Environments.Text

/-- The escape of a character by its code point. -/
def escapeByCode (c : Char) : List Char :=
  ['\\', 'u', '{'] ++ writeDigits 16 c.toNat ++ ['}']

/-- How one character of a text is written between quotes. -/
def escapeChar (c : Char) : List Char :=
  if c = '"' then ['\\', '"']
  else if c = '\\' then ['\\', '\\']
  else if c = '\n' then ['\\', 'n']
  else if c = '\r' then ['\\', 'r']
  else if c = '\t' then ['\\', 't']
  else if c.toNat = 0 then ['\\', '0']
  else if formless.contains c then escapeByCode c
  else [c]

/-- A text between double quotes, its characters escaped where they need it. -/
def quoted (s : String) : String :=
  String.ofList (['"'] ++ s.toList.flatMap escapeChar ++ ['"'])

end Environments.Text
