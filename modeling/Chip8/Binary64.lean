/-! # Binary floating point

A float is taken apart into its sign, its significand and its exponent where whole numbers are
needed of it, so that what is rounded or written is decided on integers.
-/

namespace Chip8.Binary64

/-- A finite float: the significand times two to the exponent. -/
structure Parts where
  negative : Bool
  significand : Nat
  exponent : Int
deriving DecidableEq, Repr

/-- The bit of the significand that is not stored, since it is set unless the float is tiny. -/
def hiddenBit : Nat := 0x10000000000000

/-- The exponent of the tiniest floats. -/
def leastExponent : Int := -1074

/-- The parts of the float with the given bits; none for infinities and what is not a number. -/
def parts? (bits : Nat) : Option Parts :=
  let negative := bits.testBit 63
  let biased : Nat := bits / hiddenBit % 0x800
  let fraction : Nat := bits % hiddenBit
  if biased = 0x7ff then none
  else if biased = 0 then some ⟨negative, fraction, leastExponent⟩
  else some ⟨negative, hiddenBit + fraction, biased - 1 + leastExponent⟩

/-- The whole number nearest to a quotient, the even one of two. -/
def roundQuotient (numerator denominator : Nat) : Nat :=
  let quotient := numerator / denominator
  let twice := 2 * (numerator % denominator)
  if denominator < twice ∨ (denominator = twice ∧ quotient % 2 = 1) then quotient + 1
  else quotient

def Parts.round (parts : Parts) : Int :=
  let magnitude : Int :=
    if 0 ≤ parts.exponent then parts.significand <<< parts.exponent.toNat
    else roundQuotient parts.significand (1 <<< (-parts.exponent).toNat)
  if parts.negative then -magnitude else magnitude

/-- The whole number nearest to a float, the even one of two. -/
def round? (value : Float) : Option Int := (parts? value.toBits.toNat).map Parts.round

/-- A float without its fraction. -/
def truncate (value : Float) : Float := if value < 0 then value.ceil else value.floor

end Chip8.Binary64
