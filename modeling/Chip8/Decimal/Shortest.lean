import Chip8.Binary64

/-! # The fewest digits

Every real number rounds to a float, so a float stands for a span of numbers around it. Of the
decimals in its span, the one with the fewest digits identifies the float, and of several such
decimals the nearest does. It is looked for place by place, from above the leading digit on, among
the two multiples of the place that the float lies between.
-/

namespace Chip8

/-- The digits times ten to the exponent. -/
structure Decimal where
  digits : Nat
  exponent : Int
deriving DecidableEq, Repr

namespace Decimal

open Binary64 (Parts hiddenBit leastExponent roundQuotient)

def tenTo : Nat → Nat
  | 0 => 1
  | count + 1 => 10 * tenTo count

/-- What rounds to a float, in units of two to an exponent. -/
structure Span where
  low : Nat
  middle : Nat
  high : Nat
  /-- The ends belong to it. -/
  closed : Bool
  exponent : Int
deriving DecidableEq, Repr

namespace Span

/-- The span of a float, in quarters of its last place. It reaches half as far down where the
floats below lie closer together. -/
def ofParts (parts : Parts) : Span :=
  let middle := 4 * parts.significand
  let closer := parts.significand = hiddenBit ∧ parts.exponent ≠ leastExponent
  { low := if closer then middle - 1 else middle - 2
    middle
    high := middle + 2
    closed := parts.significand % 2 = 0
    exponent := parts.exponent - 2 }

/-- What the span's numbers are multiplied by, to be compared with multiples of a place. -/
def factor (span : Span) (place : Int) : Nat :=
  tenTo (-place).toNat <<< span.exponent.toNat

/-- What multiples of a place are multiplied by, to be compared with the span's numbers. -/
def step (span : Span) (place : Int) : Nat :=
  tenTo place.toNat <<< (-span.exponent).toNat

/-- Whether a multiple of a place lies in the span. -/
def holds (span : Span) (place : Int) (digits : Nat) : Bool :=
  let value := digits * span.step place
  let low := span.low * span.factor place
  let high := span.high * span.factor place
  if span.closed then low ≤ value && value ≤ high else low < value && value < high

/-- The multiple of a place nearest to the middle. -/
def round (span : Span) (place : Int) : Nat :=
  roundQuotient (span.middle * span.factor place) (span.step place)

/-- The multiple of a place in the span, the nearest to the middle of two. -/
def multiple? (span : Span) (place : Int) : Option Nat :=
  let below := span.middle * span.factor place / span.step place
  match span.holds place below, span.holds place (below + 1) with
  | true, true => some (span.round place)
  | true, false => some below
  | false, true => some (below + 1)
  | false, false => none

/-- The decimal of the first place, of so many, that has a multiple in the span. -/
def search (span : Span) : Nat → Int → Decimal
  | 0, place => ⟨span.round place, place⟩
  | count + 1, place =>
      match span.multiple? place with
      | some digits => ⟨digits, place⟩
      | none => search span count (place - 1)

end Span

/-- A place not below the leading digit, and at most five above it. -/
def leadingPlace (parts : Parts) : Int :=
  ((parts.significand.log2 + 1 + parts.exponent) * 302).fdiv 1000 + 3

/-- Seventeen digits are always enough. -/
def mostPlaces : Nat := 24

/-- The decimal with the fewest digits that rounds to a float above zero. -/
def shortest (parts : Parts) : Decimal :=
  (Span.ofParts parts).search mostPlaces (leadingPlace parts)

end Decimal

end Chip8
