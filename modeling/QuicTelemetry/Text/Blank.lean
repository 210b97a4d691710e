import QuicTelemetry.Text.Interval

/-!
# Blanks

The characters that may surround a numeral: the white space of Unicode.
-/

namespace QuicTelemetry.Text

/-- The changes of the set of blanks. -/
def blankChanges : List Nat :=
  [0x9, 0xE, 0x20, 0x21, 0x85, 0x86, 0xA0, 0xA1, 0x1680, 0x1681, 0x2000, 0x200B, 0x2028, 0x202A,
   0x202F, 0x2030, 0x205F, 0x2060, 0x3000, 0x3001]

/-- Whether the character is a blank. -/
def isBlank (c : Char) : Bool := within blankChanges c

/-- A text without the blanks at its two ends. -/
def trimBlanks (cs : List Char) : List Char :=
  ((cs.dropWhile isBlank).reverse.dropWhile isBlank).reverse

end QuicTelemetry.Text
