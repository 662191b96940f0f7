import Chip8.Binary64
import Chip8.TimeScale.Basic

/-! # Seconds in binary floating point

The time scale that the program runs on.
-/

namespace Chip8.Binary64

def interval? (rate : Int) : Option Float :=
  let rate := Float.ofInt rate
  if rate.isFinite then some (1.0 / rate) else none

def ofTicks? (ticks : Int) : Option Float :=
  let ticks := Float.ofInt ticks
  if ticks.isFinite then some (ticks / 1024.0) else none

def rate (interval : Float) : Except RateFault Int :=
  if interval == 0.0 then .error .noInterval
  else if interval.isNaN then .error .undefined
  else match round? (1.0 / interval) with
    | some rate => .ok rate
    | none => .error .tooLarge

instance : TimeScale Float where
  decideLT := inferInstance
  decideLE := inferInstance
  zero := 0.0
  frame := 1.0 / 60.0
  hold := 0.2
  ofTicks? := ofTicks?
  interval? := interval?
  floatInterval rate := 1.0 / rate
  rate := rate
  nextSecond time := truncate time + 1.0

end Chip8.Binary64
