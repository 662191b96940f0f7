import Chip8.Binary64
import Chip8.TimeScale.Basic
import Mathlib.Data.Rat.Floor

/-! # Exact seconds

The time scale of rational numbers, on which nothing is rounded and every clock speed but zero has
an interval. Floats stand for the numbers that they are; those that are no numbers stand for zero.
-/

namespace Chip8.ExactTime

/-- The number that a float's parts stand for. -/
def value (parts : Binary64.Parts) : ℚ :=
  (if parts.negative then -1 else 1) * parts.significand * 2 ^ parts.exponent

def ofFloat (number : Float) : ℚ :=
  match Binary64.parts? number.toBits.toNat with
  | some parts => value parts
  | none => 0

/-- The whole number nearest to a number, the even one of two. -/
def round (number : ℚ) : Int :=
  let magnitude : Int := Binary64.roundQuotient number.num.natAbs number.den
  if number < 0 then -magnitude else magnitude

def rate (interval : ℚ) : Except RateFault Int :=
  if interval = 0 then .error .noInterval else .ok (round (1 / interval))

/-- A time without its fraction. -/
def truncate (time : ℚ) : Int := if time < 0 then ⌈time⌉ else ⌊time⌋

instance : TimeScale ℚ where
  decideLT := inferInstance
  decideLE := inferInstance
  zero := 0
  frame := 1 / 60
  hold := 1 / 5
  ofTicks? ticks := some (ticks / 1024)
  interval? rate := some (1 / rate)
  floatInterval rate := 1 / ofFloat rate
  rate := rate
  nextSecond time := truncate time + 1

theorem frame_eq : (TimeScale.frame : ℚ) = 1 / 60 := rfl

theorem nextSecond_eq (time : ℚ) : TimeScale.nextSecond time = truncate time + 1 := rfl

theorem floor_le_truncate (time : ℚ) : ⌊time⌋ ≤ truncate time := by
  rw [truncate]
  split
  · exact Int.floor_le_ceil time
  · exact Int.le_refl ⌊time⌋

/-- The next second begins after the whole second that a time lies in. -/
theorem floor_add_one_le_nextSecond (time : ℚ) :
    (⌊time⌋ : ℚ) + 1 ≤ TimeScale.nextSecond time := by
  have below := floor_le_truncate time
  rw [nextSecond_eq]
  exact_mod_cast Int.add_le_add_right below 1

theorem lt_nextSecond (time : ℚ) : time < TimeScale.nextSecond time :=
  (Int.lt_floor_add_one time).trans_le (floor_add_one_le_nextSecond time)

end Chip8.ExactTime
