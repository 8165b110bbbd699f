/-!
# Texts on a terminal

A terminal takes some characters as orders to itself. A text that comes from outside is tamed before
it is shown: the characters that can start or carry such an order are written out as backslash
escapes, two hexadecimal digits for those of the lower range and a code point in braces for those of
the upper one. White space and the other controls, which only move the cursor or do nothing, stay.
-/

namespace KeySweeper.Text.Terminal

/-- The characters of the lower range that steer a terminal: escape, bell, backspace, form feed and
delete. -/
def lowerControls : List Char := ['\x1b', '\x07', '\x08', '\x0c', '\x7f']

/-- Whether a character belongs to the upper range of controls. -/
def isUpperControl (c : Char) : Bool := 0x80 ≤ c.toNat && c.toNat ≤ 0x9f

/-- The characters that stand for one character of the text. -/
def escape (c : Char) : List Char :=
  if lowerControls.contains c then
    ['\\', 'x', Nat.digitChar (c.toNat / 16), Nat.digitChar (c.toNat % 16)]
  else if isUpperControl c then ['\\', 'u', '\x7b'] ++ Nat.toDigits 16 c.toNat ++ ['\x7d']
  else [c]

/-- The text without characters that steer a terminal. -/
def tame (text : String) : String := String.ofList (text.toList.flatMap escape)

end KeySweeper.Text.Terminal
