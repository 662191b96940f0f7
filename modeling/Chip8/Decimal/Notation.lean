import Chip8.Decimal.Shortest

/-! # Notation of floats in messages

A float is written with the fewest digits that identify it, and with a point that has a digit on
both sides. One of 10^16 or more or below 10^-4 is written with its leading digit before the point
and with an exponent of two digits or more, and needs no point then.
-/

namespace Chip8.Decimal

def zeros (count : Int) : List Char := List.replicate count.toNat '0'

/-- An exponent with its sign. -/
def exponentText (exponent : Int) : List Char :=
  let digits := (toString exponent.natAbs).toList
  (if exponent < 0 then '-' else '+') :: zeros (2 - digits.length) ++ digits

/-- Digits with a point after the first, unless that is the last. -/
def pointAfterFirst : List Char → List Char
  | first :: next :: rest => first :: '.' :: next :: rest
  | digits => digits

/-- A decimal above zero. -/
def layout (decimal : Decimal) : List Char :=
  let digits := (toString decimal.digits).toList
  let point : Int := digits.length + decimal.exponent
  if point ≤ -4 ∨ 16 < point then
    pointAfterFirst digits ++ 'e' :: exponentText (point - 1)
  else if point ≤ 0 then '0' :: '.' :: zeros (-point) ++ digits
  else if digits.length ≤ point then digits ++ zeros (point - digits.length) ++ ['.', '0']
  else digits.take point.toNat ++ '.' :: digits.drop point.toNat

/-- A float as a message shows it. -/
def text (value : Float) : String :=
  match Binary64.parts? value.toBits.toNat with
  | none => if value.isNaN then "nan" else if value < 0 then "-inf" else "inf"
  | some parts =>
      let magnitude := if parts.significand = 0 then ['0', '.', '0'] else layout (shortest parts)
      String.ofList (if parts.negative then '-' :: magnitude else magnitude)

end Chip8.Decimal
