import CacheCluster.Text.Graphic

/-!
# Quoted text

Diagnostics show a text between double quotes.  A quote, a backslash, a line feed, a carriage
return, a tab and NUL are written as two characters, every other character that is not graphic
as its code point in hexadecimal, and graphic characters stand as they are.

## Main definitions

* `escapeChar` : what one character is written as.
* `quoted` : a whole text.
-/

namespace CacheCluster.Text

/-- What a character is written as between the quotes. -/
def escapeChar (c : Char) : List Char :=
  if c = '"' then ['\\', '"']
  else if c = '\\' then ['\\', '\\']
  else if c = '\n' then ['\\', 'n']
  else if c = '\r' then ['\\', 'r']
  else if c = '\t' then ['\\', 't']
  else if c.toNat = 0 then ['\\', '0']
  else if isGraphic c then [c]
  else ['\\', 'u', '\x7b'] ++ Nat.toDigits 16 c.toNat ++ ['\x7d']

/-- A text as diagnostics show it. -/
def quoted (s : String) : String :=
  String.ofList ('"' :: s.toList.flatMap escapeChar ++ ['"'])

end CacheCluster.Text
