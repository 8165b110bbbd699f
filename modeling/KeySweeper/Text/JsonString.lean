/-!
# String literals of JSON documents

How a text is written between the quotes of a JSON string: the quote and the backslash are
protected by a backslash, five control characters have a letter of their own, the other characters
below the blank are written as four hexadecimal digits, and everything else stands for itself.
-/

namespace KeySweeper.Text.JsonString

/-- The hexadecimal digit for a number below sixteen, in lower case. -/
def hexDigit (n : Nat) : Char := Nat.digitChar (n % 16)

/-- The characters that stand for one character of the text. -/
def escape (c : Char) : List Char :=
  if c = '"' then ['\\', '"']
  else if c = '\\' then ['\\', '\\']
  else if c = '\x08' then ['\\', 'b']
  else if c = '\x0c' then ['\\', 'f']
  else if c = '\n' then ['\\', 'n']
  else if c = '\r' then ['\\', 'r']
  else if c = '\t' then ['\\', 't']
  else if c.toNat < 0x20 then ['\\', 'u', '0', '0', hexDigit (c.toNat / 16), hexDigit c.toNat]
  else [c]

/-- The text as a JSON string, quotes included. -/
def quote (text : String) : String :=
  String.ofList ('"' :: (text.toList.flatMap escape ++ ['"']))

end KeySweeper.Text.JsonString
