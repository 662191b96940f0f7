import Chip8.Clock
import Chip8.Directory
import Chip8.FrontChoice
import Chip8.FrontEnd
import Chip8.Log

/-! # Sessions

A session reads a program file, sets up the machine, the display and the input, and runs the
program until the user quits, something fails or the clock stops. The file is read before anything
is opened, so that a wrong name is reported first. Once a run has begun, its end closes the input
and then the display, whatever the end is.

A session starts from surroundings that are given as data, and so is a function of them and of
its options.
-/

namespace Chip8

/-- What a session finds around it. -/
structure Surroundings where
  /-- The bytes of the file that a path names. -/
  programAt : String → Except Directory.Fault (List UInt8) := Directory.read {}
  facilities : Facilities := {}
  terminal : TerminalTraits := {}
  arrivals : Arrivals := {}
  outages : Outages := {}
  clock : Clock := {}
  random : RandomBytes := {}

namespace Session

/-- Why a session failed. -/
inductive Failure where
  | missingOption (name : OptionName)
  /-- A setting of a type that its option does not take. -/
  | wrongType (name : OptionName)
  /-- A setting that is asked for a part it does not have. -/
  | notText (name : OptionName)
  /-- The program file is given as a number below zero. -/
  | negativeFile
  /-- The program file is given as the number of a file that is not open. -/
  | closedFile
  | choice (fault : FrontChoice.Fault)
  | file (fault : Directory.Fault)
  | machine (fault : Machine.Fault) (machine : Machine)
  | display (fault : Display.Fault)
  | keymap (fault : Keymap.Fault)
  | poll (fault : PollFault)
  | speedTooLarge
  | rate (fault : RateFault)
  | timeTooLarge
  /-- The clock stopped. -/
  | interrupted
deriving DecidableEq, Repr

/-- What was closed, as that left it. -/
inductive Part (τ : Type) where
  | input (input : Input τ)
  | display (display : Display)

end Session

/-- What a session did. Lists hold the latest first. -/
structure Session (τ : Type) where
  output : List String := []
  log : List LogLine := []
  debugging : Bool := false
  commands : List Display.Command := []
  closed : List (Session.Part τ) := []
  clock : Clock

namespace Session

abbrev Action (τ : Type) := EStateM Failure (Session τ)

variable {τ : Type}

def say (line : String) : Action τ Unit :=
  modify fun session => { session with output := line :: session.output }

def write (level : LogLevel) (source : LogSource) (message : String) : Action τ Unit :=
  modify fun session =>
    let line : LogLine := { level, source, message }
    if line.shownWhen session.debugging then { session with log := line :: session.log }
    else session

def give (commands : List Display.Command) : Action τ Unit :=
  modify fun session => { session with commands := commands.reverse ++ session.commands }

def lookUp (options : Options) (name : OptionName) : Action τ Setting :=
  match options.get? name with
  | some setting => pure setting
  | none => throw (.missingOption name)

/-- The number of a setting that is not left to its standard value. -/
def numberOf (name : OptionName) : Setting → Action τ (Option Int)
  | .standard => pure none
  | setting =>
      match setting.number? with
      | some number => pure (some number)
      | none => throw (.wrongType name)

/-- The scale of a display. The headless display takes any setting, since it shows nothing. -/
def scaleOf (kind : FrontKind) (setting : Setting) : Action τ (Option Display.Length) :=
  match kind, setting with
  | _, .real scale => pure (some (.float scale.toBits))
  | .headless, setting => pure (setting.number?.map .whole)
  | _, setting => do pure ((← numberOf .scale setting).map .whole)

def speedOf : Setting → Action τ (Option Host.Speed)
  | .real rate => pure (some (.float rate))
  | setting => do pure ((← numberOf .speed setting).map .whole)

/-- The text of a keymap; a setting that does not count as true means the standard one. -/
def keymapText (setting : Setting) : Action τ String :=
  if setting.isTrue then
    match setting with
    | .text text => pure text
    | _ => throw (.notText .keymap)
  else pure Keymap.standard

/-- Reads the program file. A number instead of a path would be that of a file that is open
already, and none is. -/
def readProgram (programAt : String → Except Directory.Fault (List UInt8)) (setting : Setting) :
    Action τ (List UInt8) :=
  match setting with
  | .text path =>
      match programAt path with
      | .error fault => throw (.file fault)
      | .ok program => do
          write .debug .loader s!"Read {program.length} bytes from {path}"
          pure program
  | setting =>
      match setting.number? with
      | none => throw (.wrongType .file)
      | some number =>
          if !Width.fits32 number then throw (.wrongType .file)
          else if number < 0 then throw .negativeFile
          else throw .closedFile

/-- A machine with a program loaded. -/
def prepareMachine (variant : Variant) (tracing : Bool) (random : RandomBytes)
    (program : List UInt8) : Action τ Machine :=
  match Machine.load program (Machine.fresh variant tracing random) with
  | .error fault machine => throw (.machine fault machine)
  | .ok _ machine => do
      write .info .machine
        (s!"Loaded {program.length} byte ROM at 0x" ++ Hex.padded 3 Layout.programStart)
      pure machine

def openDisplay (kind : FrontKind) (scale : Option Display.Length) (terminal : TerminalTraits) :
    Action τ Display := do
  let (commands, result) := Display.launch kind scale terminal
  give commands
  match result with
  | .error fault => throw (.display fault)
  | .ok display => pure display

def closeInput (input : Input τ) : Action τ Unit :=
  modify fun session => { session with closed := .input input.close :: session.closed }

def closeDisplay (display : Display) : Action τ Unit := do
  let result := display.close
  modify fun session => { session with closed := .display result.display :: session.closed }
  give result.commands
  match result.fault with
  | some fault => throw (.display fault)
  | none => pure ()

def openInput [TimeScale τ] (kind : FrontKind) (options : Options) (arrivals : Arrivals) :
    Action τ (Input τ) := do
  let keymap ← keymapText (← lookUp options .keymap)
  match Input.launch kind keymap arrivals with
  | .error fault => throw (.keymap fault)
  | .ok input => pure input

/-- Opens the input of a display, which is closed again if that fails. -/
def openInputOrClose [TimeScale τ] (display : Display) (kind : FrontKind) (options : Options)
    (arrivals : Arrivals) : Action τ (Input τ) := fun session =>
  match openInput kind options arrivals session with
  | .ok input session => .ok input session
  | .error failure session =>
      match closeDisplay display session with
      | .ok _ session => .error failure session
      | .error later session => .error later session

def hostFailure (machine : Machine) : Host.Fault → Failure
  | .speedTooLarge => .speedTooLarge
  | .rate fault => .rate fault
  | .timeTooLarge => .timeTooLarge
  | .machine fault => .machine fault machine
  | .title fault => .display fault
  | .display fault => .display fault
  | .input fault => .poll fault

/-- Sets up the host, with the commands given so far moved to its front end. -/
def prepareHost [TimeScale τ] (machine : Machine) (display : Display) (input : Input τ)
    (outages : Outages) (speed : Option Host.Speed) : Action τ (Host τ (FrontEnd τ)) :=
  fun session =>
    let front : FrontEnd τ := { display, input, commands := session.commands, outages }
    match Host.create machine speed front with
    | .error fault front =>
        .error (hostFailure machine fault) { session with commands := front.commands }
    | .ok host front => .ok host { session with commands := front.commands }

def rateText : Option Int → String
  | none => "uncapped"
  | some rate => toString rate

/-- The log line that an event of the host leaves, if it leaves one. -/
def logLine? : Host.Event → Option LogLine
  | .running rate =>
      some { level := .info, source := .host
             message := "Running at " ++ rateText rate ++ " operations/second" }
  | .traced line => some { level := .debug, source := .tracer, message := line }
  | _ => none

/-- The session with what the host did entered into it. -/
def enter (host : Host τ (FrontEnd τ)) (session : Session τ) : Session τ :=
  let lines := (host.journal.filterMap fun entry => logLine? entry.event).filter
    (LogLine.shownWhen session.debugging)
  { session with commands := host.front.commands, log := lines ++ session.log }

/-- Runs the host on the session's clock. -/
def runHost [TimeScale τ] (host : Host τ (FrontEnd τ)) : Action τ (Host τ (FrontEnd τ)) := do
  let (clock, host) := (← get).clock.run host
  modify fun session => { session with clock }
  modify (enter host)
  pure host

/-- Closes the input and then the display. -/
def closeFront (front : FrontEnd τ) : Action τ Unit := do
  closeInput front.input
  closeDisplay front.display

/-- The failure that a run ended with. -/
def failureOf {σ : Type} (host : Host τ σ) : Option Failure :=
  match host.ending? with
  | none => some .interrupted
  | some .quit => none
  | some (.failed fault) => some (hostFailure host.machine fault)

/-- Closes the front end of a host after its run, and fails if the run failed. What stopped the
machine is entered into the log before; an interruption is not. -/
def finish (host : Host τ (FrontEnd τ)) : Action τ Unit :=
  match failureOf host with
  | none => closeFront host.front
  | some failure => do
      if failure ≠ .interrupted then write .error .session "Emulation stopped"
      closeFront host.front
      throw failure

def runAndClose [TimeScale τ] (host : Host τ (FrontEnd τ)) : Action τ Unit := do
  finish (← runHost host)

def variantOf (shifts keyRelease : Setting) : Variant where
  shiftsCopy := shifts.isTrue
  testsRelease := keyRelease.isTrue

/-- Sets everything up for a run, up to the host. -/
def prepare (τ : Type) [TimeScale τ] (surroundings : Surroundings) (options : Options) :
    Action τ (Host τ (FrontEnd τ)) := do
  say Product.banner
  let debugging := (← lookUp options .debug).isTrue
  modify fun session => { session with debugging }
  let shifts ← lookUp options .shifts
  let keyRelease ← lookUp options .keyRelease
  let renderer ← lookUp options .renderer
  match FrontChoice.choose surroundings.facilities renderer with
  | .error fault => throw (.choice fault)
  | .ok kind =>
      let program ← readProgram surroundings.programAt (← lookUp options .file)
      let machine ← prepareMachine (variantOf shifts keyRelease) debugging surroundings.random
        program
      let scale ← scaleOf kind (← lookUp options .scale)
      let display ← openDisplay kind scale surroundings.terminal
      let input ← openInputOrClose display kind options surroundings.arrivals
      let speed ← speedOf (← lookUp options .speed)
      prepareHost machine display input surroundings.outages speed

/-- A session on a time scale. -/
def perform (τ : Type) [TimeScale τ] (surroundings : Surroundings) (options : Options) :
    Action τ Unit := do
  runAndClose (← prepare τ surroundings options)

/-- What a session did, and why it failed, if it did. -/
def run (τ : Type) [TimeScale τ] (surroundings : Surroundings) (options : Options) :
    Session τ × Option Failure :=
  match perform τ surroundings options { clock := surroundings.clock } with
  | .ok _ session => (session, none)
  | .error failure session => (session, some failure)

/-- The lines written to the output, each ended by a line break. -/
def outputText (session : Session τ) : String :=
  String.join (session.output.reverse.map fun line => line ++ "\n")

def logText (session : Session τ) : String :=
  String.join (session.log.reverse.map fun line => line.text ++ "\n")

/-- The message of a failure of the program's own. -/
def Failure.message : Failure → String
  | missingOption _ => "An option is missing"
  | wrongType _ => "An option has a value of the wrong type"
  | notText _ => "An option is not a text"
  | negativeFile => "A file cannot have a number below zero"
  | closedFile => "No file with this number is open"
  | choice fault => fault.message
  | file .badPath => "The path holds a NUL character"
  | file .tooLong => "The path is too long"
  | file .notFound => "There is no such file"
  | file .isDirectory => "The path names a directory"
  | file .notDirectory => "The path goes through a file"
  | machine fault state => fault.message state
  | display fault => fault.message
  | keymap fault => fault.message
  | poll fault => fault.reason
  | speedTooLarge => "The clock speed is too large"
  | rate .noInterval => "Instructions cannot take no time"
  | rate .tooLarge => "The rate is too large"
  | rate .undefined => "The clock speed is not a number"
  | timeTooLarge => "The time is too large"
  | interrupted => "Interrupted"

end Session

end Chip8
