import Chip8.Host.Basic

/-! # Runs of the host

A run reads its clock again and again: once to begin with, once at the start of each iteration,
and, when instructions are paced, as often as it takes for the next one's time to come. Between
two readings nothing else happens outside the host, so a run is given by what each reading makes
the host do, and a run on a sequence of readings is a fold.

An iteration reports if a second is over; polls and presents if a sixtieth of one is; brings the
timers up to date; and runs an instruction.
-/

namespace Chip8.Host

variable {τ σ : Type}

/-- The reading that the timers count from. -/
def start [TimeScale τ] (now : τ) : Action τ σ Unit := do
  modify fun host => { host with nextTimer := now + TimeScale.frame }
  match (← get).interval with
  | none => record (.running none)
  | some interval =>
      match TimeScale.rate interval with
      | .ok rate => record (.running (some rate))
      | .error fault => throw (.failed (.rate fault))
  modify fun host => { host with phase := .looping }

/-- Reports the frames and operations since the last report, and counts afresh. -/
def reportWhenDue [TimeScale τ] [Front τ σ] (now : τ) : Action τ σ Unit := do
  let host ← get
  if host.nextReport ≤ now then
    set { host with nextReport := TimeScale.nextSecond now }
    report host.frames host.operations
    modify fun host => { host with frames := 0, operations := 0 }

/-- Polls the inputs, which may end the run, and presents the picture. -/
def displayWhenDue [TimeScale τ] [Front τ σ] (now : τ) : Action τ σ Unit := do
  if (← get).nextDisplay ≤ now then
    if ← pollInputs now then throw .quit
    modify fun host => { host with nextDisplay := now + TimeScale.frame }
    if ← refreshDisplay then
      modify fun host => { host with frames := host.frames + 1 }

/-- What to wait for after an instruction that began at a time. -/
def pace [TimeScale τ] (now : τ) : Action τ σ Unit :=
  modify fun host =>
    { host with
      phase := match host.interval with
        | none => .looping
        | some interval => .pacing (now + interval) }

def iterate [TimeScale τ] [Front τ σ] (now : τ) : Action τ σ Unit := do
  reportWhenDue now
  displayWhenDue now
  let _ ← serviceTimers now
  runCycle
  modify fun host => { host with operations := host.operations + 1 }
  pace now

/-- The host after an action, which ends the run if it fails. -/
def settle (action : Action τ σ Unit) (host : Host τ σ) : Host τ σ :=
  match action host with
  | .ok _ host => host
  | .error ending host => { host with phase := .ended ending }

/-- Takes note of a reading. -/
def observe (now : τ) (host : Host τ σ) : Host τ σ :=
  { host with now, readings := host.readings + 1 }

/-- What a reading of the clock makes the host do. -/
def feed [TimeScale τ] [Front τ σ] (host : Host τ σ) (now : τ) : Host τ σ :=
  match host.phase with
  | .idle => host
  | .ended _ => host
  | .starting => settle (start now) (host.observe now)
  | .looping => settle (iterate now) (host.observe now)
  | .pacing next =>
      if now < next then host.observe now else { host.observe now with phase := .looping }

/-- The host after a reading of the clock that shows no time. -/
def loseTime (host : Host τ σ) : Host τ σ :=
  { host with readings := host.readings + 1, phase := .ended (.failed .timeTooLarge) }

def begin (host : Host τ σ) : Host τ σ := { host with phase := .starting }

/-- A run on the readings of a clock, which goes no further than its end. -/
def replay [TimeScale τ] [Front τ σ] (host : Host τ σ) (readings : List τ) : Host τ σ :=
  readings.foldl feed host.begin

/-- How a run ended, if it did before its clock stopped. -/
def ending? (host : Host τ σ) : Option Ending :=
  match host.phase with
  | .ended ending => some ending
  | _ => none

end Chip8.Host
