import RuleLexer.Unicode.Latest

/-!
# Quoted text

`quoted` writes a text between double quotes on one line, with an escape for every character that
would not be seen as itself.
-/

namespace RuleLexer.Text

/-- The escape that names a character by its code point: the number in hexadecimal digits,
without leading zeros, between braces. -/
def codePointEscape (c : Char) : List Char :=
  "\\u\x7b".toList ++ Nat.toDigits 16 c.toNat ++ ['\x7d']

/-- How a character is written between quotes. -/
def escaped (c : Char) : List Char :=
  if c = '"' then ['\\', '"']
  else if c = '\\' then ['\\', '\\']
  else if c = '\n' then ['\\', 'n']
  else if c = '\t' then ['\\', 't']
  else if c = '\r' then ['\\', 'r']
  else if c = '\x00' then ['\\', '0']
  else if Unicode.isAttached c || !Unicode.isPrintable c then codePointEscape c
  else [c]

/-- The text between quotes. -/
def quoted (s : String) : String :=
  String.ofList ('"' :: s.toList.flatMap escaped ++ ['"'])

end RuleLexer.Text
