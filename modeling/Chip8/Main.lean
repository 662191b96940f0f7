import Chip8.CommandLine.Parse
import Chip8.CommandLine.Usage
import Chip8.Session
import Chip8.TimeScale.Binary64

/-! # The program

Reads its command line, runs a session on the system's clock, and writes what the session writes.
It controls neither windows nor terminals, so its sessions are headless.
-/

namespace Chip8.Program

/-- The name that messages begin with. -/
def name : String := "chocchip8"

/-- Whether an error number, which comes with either sign, is that of a path through a file. -/
def isNotDirectory (code : UInt32) : Bool := code == 20 || code == -20

/-- The bytes of a file, or why it has none. -/
def readProgram (path : String) : IO (Except Directory.Fault (List UInt8)) := do
  match ← (IO.FS.readBinFile path).toBaseIO with
  | .ok bytes => pure (.ok bytes.toList)
  | .error (.noFileOrDirectory ..) => pure (.error .notFound)
  | .error (.inappropriateType _ code _) =>
      pure (.error (if isNotDirectory code then .notDirectory else .isDirectory))
  | .error fault => throw fault

/-- Seconds on the system's clock. -/
def seconds : IO Float := return Float.ofNat (← IO.monoNanosNow) / 1000000000.0

/-- Writes a session's output and log, which are empty then. -/
def flush (session : Session Float) : IO (Session Float) := do
  let output ← IO.getStdout
  output.putStr session.outputText
  output.flush
  (← IO.getStderr).putStr session.logText
  pure { session with output := [], log := [] }

/-- Feeds the system's clock to a host until its run ends. -/
def runLive (prepared : Host Float (FrontEnd Float)) (session : Session Float) :
    IO (Host Float (FrontEnd Float) × Session Float) := do
  let mut host := prepared.begin
  let mut session := session
  while host.ending?.isNone do
    host := host.feed (← seconds)
    session ← flush (session.enter host)
    host := { host with journal := [] }
  pure (host, session)

/-- Writes the rest of a session, and tells the status that it leaves. -/
def leave (session : Session Float) (failure : Option Session.Failure) : IO UInt32 := do
  let _ ← flush session
  match failure with
  | none => pure 0
  | some failure =>
      IO.eprintln failure.message
      pure 1

/-- What a session finds around it, once its program file is read. -/
def surroundings (program : Except Directory.Fault (List UInt8)) : IO Surroundings := do
  let random ← IO.getRandomBytes 4096
  pure {
    programAt := fun _ => program
    facilities := { windows := false, terminals := false }
    random := { bytes := random.data } }

def runSession (options : Options) : IO UInt32 := do
  let program ← match options.get? .file with
    | some (.text path) => readProgram path
    | _ => pure (.error .notFound)
  let surroundings ← surroundings program
  match Session.prepare Float surroundings options { clock := surroundings.clock } with
  | .error failure session => leave session (some failure)
  | .ok host session =>
      let (host, session) ← runLive host (← flush session)
      match Session.finish host session with
      | .ok _ session => leave session none
      | .error failure session => leave session (some failure)

/-- Does what a command line asks for, and tells the status that the process leaves. -/
def start (arguments : List String) : IO UInt32 := do
  match CommandLine.parse arguments with
  | .ok options => runSession options
  | .error .help =>
      IO.println (CommandLine.usage name)
      pure 0
  | .error (.refused refusal) =>
      IO.eprintln (CommandLine.usage name)
      IO.eprintln (refusal.report name)
      pure 2

end Chip8.Program

def main (arguments : List String) : IO UInt32 := Chip8.Program.start arguments
