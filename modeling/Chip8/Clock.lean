import Chip8.Host.Run

/-! # Clocks

A clock in 1024ths of a second that is set before the run: each reading moves it on by the next
of its steps, which repeat, and shows the new time. After a limit of readings it stops, which
interrupts whoever reads it next.
-/

namespace Chip8

structure Clock where
  now : Int := 0
  steps : Array Int := #[1]
  readings : Nat := 0
  limit : Nat := 4000
deriving DecidableEq, Repr

namespace Clock

/-- The clock after a reading. -/
def advance (clock : Clock) : Clock :=
  { clock with
    now := clock.now + clock.steps.getD (clock.readings % clock.steps.size) 0
    readings := clock.readings + 1 }

/-- The time that a clock shows, unless it is beyond the scale. -/
def time? (τ : Type) [TimeScale τ] (clock : Clock) : Option τ := TimeScale.ofTicks? clock.now

/-- Feeds at most so many readings to a host, as long as its run has not ended. A reading that
shows no time ends it. -/
def feed {τ σ : Type} [TimeScale τ] [Front τ σ] :
    Nat → Clock → Host τ σ → Clock × Host τ σ
  | 0, clock, host => (clock, host)
  | count + 1, clock, host =>
      match host.ending? with
      | some _ => (clock, host)
      | none =>
          let clock := clock.advance
          match clock.time? τ with
          | some now => feed count clock (host.feed now)
          | none => (clock, host.loseTime)

/-- Runs a host until its run ends or the clock stops. -/
def run {τ σ : Type} [TimeScale τ] [Front τ σ] (clock : Clock) (host : Host τ σ) :
    Clock × Host τ σ :=
  feed (clock.limit - clock.readings) clock host.begin

end Clock

end Chip8
