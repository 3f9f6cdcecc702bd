import CommandShell.Text
import CommandShell.Text.Hidden

/-!
# Quoted texts

A text that may hold anything is shown between double quotes, with escapes for the quote, the
backslash, the line controls and NUL, and with the code point of every other hidden character.

## Main definitions
* `quoted`: the shown form of a text.
-/

namespace CommandShell

/-- The code point of a character, as an escape in hexadecimal. -/
def codePointEscape (c : Char) : Text :=
  "\\u\x7b".toList ++ Nat.toDigits 16 c.toNat ++ "\x7d".toList

/-- A character as it is shown inside double quotes. -/
def shown (c : Char) : Text :=
  if c = '"' then "\\\"".toList
  else if c = '\\' then "\\\\".toList
  else if c = '\n' then "\\n".toList
  else if c = '\t' then "\\t".toList
  else if c = '\r' then "\\r".toList
  else if c.toNat = 0 then "\\0".toList
  else if isHidden c then codePointEscape c
  else [c]

/-- A text between double quotes. -/
def quoted (text : Text) : Text :=
  '"' :: text.flatMap shown ++ ['"']

end CommandShell
