/-!
# Percent escapes

In the parts of an address a percent sign and two hexadecimal digits stand for one byte of the text,
and every other character for the bytes of its own encoding. A percent sign that no two digits
follow stands for itself. The bytes need not be the encoding of any text.
-/

namespace KeySweeper.Text.Percent

/-- The value of a hexadecimal digit in either letter case. -/
def hexDigit? (c : Char) : Option Nat :=
  if '0' ≤ c && c ≤ '9' then some (c.toNat - '0'.toNat)
  else if 'a' ≤ c && c ≤ 'f' then some (c.toNat - 'a'.toNat + 10)
  else if 'A' ≤ c && c ≤ 'F' then some (c.toNat - 'A'.toNat + 10)
  else none

/-- The byte that two hexadecimal digits stand for. -/
def byte? (high low : Char) : Option UInt8 :=
  match hexDigit? high, hexDigit? low with
  | some h, some l => some (UInt8.ofNat (16 * h + l))
  | _, _ => none

/-- The bytes that characters stand for. -/
def bytes : List Char → List UInt8
  | '%' :: high :: low :: rest =>
    match byte? high low with
    | some byte => byte :: bytes rest
    | none => String.utf8EncodeChar '%' ++ bytes (high :: low :: rest)
  | c :: rest => String.utf8EncodeChar c ++ bytes rest
  | [] => []

/-- The text that characters stand for, if their bytes are one. -/
def decode? (chars : List Char) : Option String := String.fromUTF8? ⟨(bytes chars).toArray⟩

end KeySweeper.Text.Percent
