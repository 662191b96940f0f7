import Chip8.Text.Blank
import Chip8.Text.Digit

/-! # Integer numerals

A numeral is an optional sign and decimal digits of any script, mixed at will; one underscore may
stand between two digits, and blanks may surround the whole. A numeral has at most `maxDigits`
digits, leading zeros counted and underscores not.
-/

namespace Chip8.Numeral

def maxDigits : Nat := 4300

/-- The digits of a numeral without sign and blanks, most significant first. -/
def figures? : List Char → Option (List Nat)
  | [] => none
  | [c] => (Digit.value? c).map fun digit => [digit]
  | c :: '_' :: rest => do
      let digit ← Digit.value? c
      let digits ← figures? rest
      some (digit :: digits)
  | c :: next :: rest => do
      let digit ← Digit.value? c
      let digits ← figures? (next :: rest)
      some (digit :: digits)

/-- The number that decimal digits write, most significant first. -/
def ofDigits (digits : List Nat) : Nat :=
  digits.foldl (fun number digit => 10 * number + digit) 0

/-- The number that an unsigned numeral writes. -/
def magnitude? (text : List Char) : Option Nat :=
  match figures? text with
  | some digits => if digits.length ≤ maxDigits then some (ofDigits digits) else none
  | none => none

/-- The integer that a numeral writes; none for any other text. -/
def parse? (text : List Char) : Option Int :=
  match Blank.strip text with
  | '-' :: rest => (magnitude? rest).map fun number => -number
  | '+' :: rest => (magnitude? rest).map fun number => number
  | unsigned => (magnitude? unsigned).map fun number => number

end Chip8.Numeral
