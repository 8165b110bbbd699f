/-!
# Decimal numbers in configuration texts

A number is one or more ASCII digits, with an optional plus sign in front, or a minus sign if
negative numbers are wanted at all. Blanks, underscores and any other character make the text
unreadable, and so does a value outside the range of the field it is meant for.
-/

namespace KeySweeper.Text.Numeral

/-- The value of a digit. -/
def digit? (c : Char) : Option Nat :=
  if '0' ≤ c && c ≤ '9' then some (c.toNat - '0'.toNat) else none

/-- Reads digits after a number already read. -/
def digitsFrom? (value : Nat) : List Char → Option Nat
  | [] => some value
  | c :: rest =>
    match digit? c with
    | some d => digitsFrom? (10 * value + d) rest
    | none => none

/-- Reads one or more digits. -/
def digits? : List Char → Option Nat
  | [] => none
  | chars => digitsFrom? 0 chars

/-- Reads a number from zero up to, but without, the limit. -/
def unsigned? (limit : Nat) (text : String) : Option Nat :=
  let magnitude := match text.toList with
    | '+' :: rest => digits? rest
    | chars => digits? chars
  magnitude.filter (· < limit)

/-- Reads a number from minus the limit up to, but without, the limit. -/
def signed? (limit : Nat) (text : String) : Option Int :=
  match text.toList with
  | '-' :: rest => ((digits? rest).filter (· ≤ limit)).map fun n => -(n : Int)
  | '+' :: rest => ((digits? rest).filter (· < limit)).map Int.ofNat
  | chars => ((digits? chars).filter (· < limit)).map Int.ofNat

/-- One past the largest number of sixteen bits. -/
def limit16 : Nat := 65536

/-- One past the largest number of sixty-four bits. -/
def limit64 : Nat := 18446744073709551616

/-- One past the largest signed number of sixty-four bits. -/
def signedLimit64 : Nat := 9223372036854775808

/-- Reads a truth value, which is spelt out in lower case. -/
def truth? (text : String) : Option Bool :=
  if text = "true" then some true
  else if text = "false" then some false
  else none

end KeySweeper.Text.Numeral
