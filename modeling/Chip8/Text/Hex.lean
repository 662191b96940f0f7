/-! # Hexadecimal text

Numbers in lower-case hexadecimal, filled up with zeros on the left to a least width. A minus
sign stands before the zeros and counts towards the width.
-/

namespace Chip8.Hex

def digit (n : Nat) : Char :=
  if n < 10 then Char.ofNat (0x30 + n) else Char.ofNat (0x57 + n)

/-- The digits of a number, most significant first, without leading zeros. -/
def digits (n : Nat) : List Char :=
  if n < 16 then [digit n] else digits (n / 16) ++ [digit (n % 16)]

/-- The digits of a number with zeros before them up to `width`. -/
def filled (width n : Nat) : List Char :=
  List.replicate (width - (digits n).length) '0' ++ digits n

/-- A number in at least `width` characters. -/
def padded (width : Nat) (value : Int) : String :=
  if value < 0 then String.ofList ('-' :: filled (width - 1) value.natAbs)
  else String.ofList (filled width value.natAbs)

/-- Two digits for each byte. -/
def ofBytes (bytes : List UInt8) : String :=
  String.ofList (bytes.flatMap fun byte => filled 2 byte.toNat)

/-- The value of a hexadecimal digit in either case. -/
def value? (c : Char) : Option Nat :=
  let code := c.toNat
  if 0x30 ≤ code ∧ code < 0x3a then some (code - 0x30)
  else if 0x61 ≤ code ∧ code < 0x67 then some (code - 0x57)
  else if 0x41 ≤ code ∧ code < 0x47 then some (code - 0x37)
  else none

/-- The bytes that pairs of digits write. -/
def pairs? : List Char → Option (List UInt8)
  | [] => some []
  | [_] => none
  | high :: low :: rest => do
      let high ← value? high
      let low ← value? low
      let bytes ← pairs? rest
      some (UInt8.ofNat (high * 16 + low) :: bytes)

def toBytes? (text : String) : Option (List UInt8) := pairs? text.toList

end Chip8.Hex
