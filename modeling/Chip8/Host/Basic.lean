import Chip8.Host.Front
import Chip8.Machine.Cycle
import Chip8.TimeScale.Basic

/-! # The host

The host runs the machine against a clock. Instructions run at a chosen speed or uncapped; timers
tick sixty times a second whatever that speed is; inputs are polled, and the picture is presented
if it changed, at most sixty times a second; the frames and operations of the last second are
reported in the display's title.

Whatever the host does is entered into a journal, the latest entry first.
-/

namespace Chip8

namespace Host

inductive Fault where
  /-- A clock speed beyond the time scale. -/
  | speedTooLarge
  /-- The interval of the instructions has no rate that can be told. -/
  | rate (fault : RateFault)
  /-- A reading of the clock beyond the time scale. -/
  | timeTooLarge
  | machine (fault : Machine.Fault)
  /-- The display failed at a title. -/
  | title (fault : Display.Fault)
  /-- The display failed at anything else. -/
  | display (fault : Display.Fault)
  | input (fault : PollFault)
deriving DecidableEq, Repr

/-- How a run ends by itself. -/
inductive Ending where
  /-- The user asked to quit. -/
  | quit
  | failed (fault : Fault)
deriving DecidableEq, Repr

/-- What the host waits for. -/
inductive Phase (τ : Type) where
  /-- A run to begin. -/
  | idle
  /-- The reading that the timers count from. -/
  | starting
  /-- The reading that an iteration begins with. -/
  | looping
  /-- A reading that is not before a time, the next instruction's. -/
  | pacing (next : τ)
  | ended (ending : Ending)
deriving DecidableEq, Repr

inductive Event where
  /-- A run began, at a rate or uncapped. -/
  | running (rate : Option Int)
  | reported (frames operations : Int)
  | polled (quit : Bool)
  | drawn (cells : Array UInt8)
  | ticked (count : Nat)
  /-- An instruction was traced. -/
  | traced (line : String)
  /-- An instruction was run, and failed or did not. -/
  | cycled (fault : Option Machine.Fault)
  /-- The front end failed at a title, at a picture or at a poll. -/
  | faulted (fault : Fault)
deriving DecidableEq, Repr

/-- An event, with the number of clock readings before it and the time of the last one. -/
structure Entry (τ : Type) where
  readings : Nat
  time : τ
  event : Event
deriving DecidableEq, Repr

/-- How many instructions a second are to run; zero and less mean as many as can. -/
inductive Speed where
  | whole (rate : Int)
  | float (rate : Float)

/-- The clock speed unless another is chosen. -/
def standardSpeed : Int := 700

/-- How many ticks are made up for at once when the host lags. -/
def maxCatchUp : Nat := 8

def title (frames operations : Int) : String :=
  Product.name ++ " - " ++ toString frames ++ " FPS, " ++ toString operations ++ " OPS"

end Host

structure Host (τ σ : Type) where
  machine : Machine
  front : σ
  /-- The time that an instruction takes, unless instructions run uncapped. -/
  interval : Option τ
  nextTimer : τ
  nextDisplay : τ
  nextReport : τ
  /-- Pictures drawn since the last report. -/
  frames : Nat := 0
  /-- Instructions run since the last report. -/
  operations : Nat := 0
  readings : Nat := 0
  /-- The latest reading. -/
  now : τ
  phase : Host.Phase τ := .idle
  journal : List (Host.Entry τ) := []

namespace Host

variable {τ σ : Type}

abbrev Action (τ σ : Type) := EStateM Ending (Host τ σ)

def record (event : Event) : Action τ σ Unit :=
  modify fun host =>
    { host with journal := ⟨host.readings, host.now, event⟩ :: host.journal }

/-- Ends a run with a fault of the front end. -/
def blame {α : Type} (fault : Fault) : Action τ σ α := do
  record (.faulted fault)
  throw (.failed fault)

/-- Shows the frames and operations of a second in the title. -/
def report [Front τ σ] (frames operations : Int) : Action τ σ Unit := do
  let host ← get
  match Front.setTitle (title frames operations) host.front with
  | .error fault front =>
      set { host with front }
      blame (.title fault)
  | .ok _ front =>
      set { host with front }
      record (.reported frames operations)

/-- Presents the picture if it changed, and tells whether it did. -/
def refreshDisplay [Front τ σ] : Action τ σ Bool := do
  let host ← get
  let framebuffer := host.machine.framebuffer
  match framebuffer.present Front.draw host.front with
  | .error fault front =>
      set { host with front }
      blame (.display fault)
  | .ok (drawn, presented) front =>
      set { host with front, machine := { host.machine with framebuffer := presented } }
      if drawn then record (.drawn framebuffer.view)
      pure drawn

/-- The host with the keypad and the front end that a poll left. -/
def handed (host : Host τ σ) (left : Keypad × σ) : Host τ σ :=
  { host with front := left.2, machine := { host.machine with keypad := left.1 } }

/-- Polls the inputs, and tells whether the user asked to quit. -/
def pollInputs [Front τ σ] (now : τ) : Action τ σ Bool := do
  let host ← get
  match Front.poll now (host.machine.keypad, host.front) with
  | .error fault left =>
      set (host.handed left)
      blame (.input fault)
  | .ok quit left =>
      set (host.handed left)
      record (.polled quit)
      pure quit

/-- Ticks the timers for each sixtieth of a second up to a time, at most so many times, and tells
how often. -/
def tickDue [TimeScale τ] (now : τ) : Nat → Host τ σ → Nat × Host τ σ
  | 0, host => (0, host)
  | room + 1, host =>
      if host.nextTimer ≤ now then
        let (count, host) := tickDue now room
          { host with
            machine := host.machine.tick
            nextTimer := host.nextTimer + TimeScale.frame }
        (count + 1, host)
      else (0, host)

/-- Brings the timers up to a time. When the host lags too far, the ticks that were missed are
dropped and counting starts afresh. -/
def serviceTimers [TimeScale τ] (now : τ) : Action τ σ Nat := do
  let (count, host) := tickDue now maxCatchUp (← get)
  if host.nextTimer ≤ now then set { host with nextTimer := now + TimeScale.frame }
  else set host
  record (.ticked count)
  pure count

/-- Takes over what a run of the machine leaves, and fails if it failed. -/
def take (outcome : Machine.Outcome) : Action τ σ Unit := do
  modify fun host => { host with machine := outcome.machine }
  outcome.traces.forM fun line => record (.traced line)
  record (.cycled outcome.fault)
  match outcome.fault with
  | some fault => throw (.failed (.machine fault))
  | none => pure ()

def runCycle : Action τ σ Unit := do take (← get).machine.cycle

/-- Runs instructions without timing, polling or presenting. -/
def step : Nat → Action τ σ Unit
  | 0 => pure ()
  | count + 1 => do
      runCycle
      step count

/-- The interval of a clock speed; none if instructions run uncapped. -/
def intervalOf [TimeScale τ] : Speed → Except Fault (Option τ)
  | .whole rate =>
      if rate ≤ 0 then .ok none
      else match TimeScale.interval? rate with
        | some interval => .ok (some interval)
        | none => .error .speedTooLarge
  | .float rate =>
      .ok (if rate ≤ 0.0 then none else some (TimeScale.floatInterval rate))

/-- A host for a machine and a front end, which it gives the picture's size and a first title. -/
def create [TimeScale τ] [Front τ σ] (machine : Machine) (speed : Option Speed) :
    EStateM Fault σ (Host τ σ) := do
  match intervalOf (speed.getD (.whole standardSpeed)) with
  | .error fault => throw fault
  | .ok interval =>
      let front ← get
      match Front.resize machine.framebuffer.width machine.framebuffer.height front with
      | .error fault front =>
          set front
          throw (.display fault)
      | .ok _ front =>
          match Front.setTitle (title 0 0) front with
          | .error fault front =>
              set front
              throw (.title fault)
          | .ok _ front =>
              set front
              pure {
                machine
                front
                interval
                nextTimer := TimeScale.zero
                nextDisplay := TimeScale.zero
                nextReport := TimeScale.zero
                now := TimeScale.zero
                journal := [⟨0, TimeScale.zero, .reported 0 0⟩] }

end Host

end Chip8
