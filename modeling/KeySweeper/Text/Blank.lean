/-!
# Blanks

The characters that count as white space: the blank, the controls from the tab to the carriage
return, the next line, and the spaces and separators of other scripts, as the property for white
space of the Unicode character database lists them.
-/

namespace KeySweeper.Text

/-- The ranges of code points that are white space, in increasing order, ends included. -/
def blankRanges : List (Nat × Nat) :=
  [(0x9, 0xd), (0x20, 0x20), (0x85, 0x85), (0xa0, 0xa0), (0x1680, 0x1680), (0x2000, 0x200a),
   (0x2028, 0x2029), (0x202f, 0x202f), (0x205f, 0x205f), (0x3000, 0x3000)]

/-- Whether a character is white space. -/
def isBlank (c : Char) : Bool :=
  blankRanges.any fun (low, high) => low ≤ c.toNat && c.toNat ≤ high

/-- A text without the blanks at its end. -/
def trimEnd (text : String) : String :=
  String.ofList (text.toList.reverse.dropWhile isBlank).reverse

end KeySweeper.Text
