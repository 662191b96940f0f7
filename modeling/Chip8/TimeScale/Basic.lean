/-! # Time scales

What the host asks of the times that its clock reads: to be added and compared, and a few
durations. The host runs on any time scale: on the machine's own floating point when it runs, and
on exact numbers where its timing is reasoned about.
-/

namespace Chip8

/-- Why the rate of an interval is no whole number. -/
inductive RateFault where
  /-- The interval is no time at all. -/
  | noInterval
  /-- The rate is beyond the scale. -/
  | tooLarge
  /-- The interval is not a number. -/
  | undefined
deriving DecidableEq, Repr

class TimeScale (τ : Type) extends Add τ, LT τ, LE τ where
  decideLT : DecidableLT τ
  decideLE : DecidableLE τ
  zero : τ
  /-- A sixtieth of a second: the interval of the timers and of the display. -/
  frame : τ
  /-- How long a typed key counts as held: a fifth of a second. -/
  hold : τ
  /-- The time of a count of 1024ths of a second, unless it is beyond the scale. -/
  ofTicks? : Int → Option τ
  /-- The interval at which something happens so many times a second. -/
  interval? : Int → Option τ
  /-- The interval of a rate in floating point. -/
  floatInterval : Float → τ
  /-- How many times a second something happens at an interval, to the nearest whole number. -/
  rate : τ → Except RateFault Int
  /-- One second after the whole second that a time lies in. -/
  nextSecond : τ → τ

attribute [reducible, instance] TimeScale.decideLT TimeScale.decideLE

end Chip8
