import KeySweeper.Text.Unprintable

/-!
# Quoted texts in messages

How a text is shown inside a message when its borders and its invisible characters matter: between
double quotes, with a backslash before quotes and backslashes, letters for the usual white space, a
zero for the null character, and the code point in braces for any other character that would not
show.
-/

namespace KeySweeper.Text.Literal

/-- The hexadecimal digits of a number, without leading zeros. -/
def hex (n : Nat) : List Char := Nat.toDigits 16 n

/-- The characters that stand for one character of the text. -/
def escape (c : Char) : List Char :=
  if c = '"' then ['\\', '"']
  else if c = '\\' then ['\\', '\\']
  else if c = '\n' then ['\\', 'n']
  else if c = '\r' then ['\\', 'r']
  else if c = '\t' then ['\\', 't']
  else if c = '\x00' then ['\\', '0']
  else if isUnprintable c then ['\\', 'u', '\x7b'] ++ hex c.toNat ++ ['\x7d']
  else [c]

/-- The text between double quotes, with everything shown. -/
def quote (text : String) : String :=
  String.ofList ('"' :: (text.toList.flatMap escape ++ ['"']))

end KeySweeper.Text.Literal
