/-! # Blanks around a numeral

The characters that may surround a numeral: the six ASCII blanks and the white space of
Unicode 14 beyond ASCII. The four ASCII information separators are not blanks.
-/

namespace Chip8.Blank

/-- White space beyond ASCII. -/
def beyondAscii : List Nat := [
  0x85, 0xa0, 0x1680, 0x2000, 0x2001, 0x2002, 0x2003, 0x2004, 0x2005, 0x2006, 0x2007, 0x2008,
  0x2009, 0x200a, 0x2028, 0x2029, 0x202f, 0x205f, 0x3000]

def isBlank (c : Char) : Bool :=
  (9 ≤ c.toNat && c.toNat ≤ 13) || c.toNat == 32 || beyondAscii.contains c.toNat

/-- The text without the blanks at either end. -/
def strip (text : List Char) : List Char :=
  ((text.dropWhile isBlank).reverse.dropWhile isBlank).reverse

end Chip8.Blank
