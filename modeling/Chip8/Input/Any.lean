import Chip8.Display.Any
import Chip8.Input.Typing
import Chip8.Input.Window

/-! # Kinds of input

An input belongs to a display of its own kind. The headless input checks its keymap like the
others and then leaves every key as it is.
-/

namespace Chip8

inductive Input (τ : Type) where
  | headless (keymap : Keymap)
  | window (input : WindowInput)
  /-- With the number of turns that the reader has before each poll to come. -/
  | typing (input : TerminalInput τ) (turns : List Nat)

/-- When the reader of a terminal has its turns. -/
inductive ReaderPace where
  /-- On a thread beside the run: so many before each poll. -/
  | beside (turns : List Nat)
  /-- Where there are no threads: while the input is opened, one for each character. -/
  | ahead
deriving DecidableEq, Repr

/-- What a front end is going to be sent. -/
structure Arrivals where
  /-- Batches of window events. -/
  events : List (List WindowEvent) := []
  /-- Characters typed at the terminal. -/
  characters : List Int := []
  pace : ReaderPace := .ahead
deriving DecidableEq, Repr

namespace Input

variable {τ : Type}

/-- Opens an input. A reader that runs ahead is part of the opening, which fails if it does; one
beside the run is over then, and the rest goes on. -/
def launch [TimeScale τ] (kind : FrontKind) (keymap : String) (arrivals : Arrivals) :
    Except Keymap.Fault (Input τ) :=
  match kind with
  | .headless => (Keymap.parse false keymap).map .headless
  | .window =>
      match Keymap.parse false keymap with
      | .error fault => .error fault
      | .ok keymap => .ok (.window { keymap, batches := arrivals.events })
  | .terminal =>
      match Keymap.parse true keymap with
      | .error fault => .error fault
      | .ok keymap =>
          let input := TerminalInput.start keymap arrivals.characters
          match arrivals.pace with
          | .beside turns => .ok (.typing input turns)
          | .ahead =>
              let input := input.readOn arrivals.characters.length
              match input.reader with
              | .failed fault => .error (.noCharacter fault)
              | _ => .ok (.typing input [])

/-- Handles what was sent since the last poll, and tells whether it asks to quit. -/
def poll [TimeScale τ] (now : τ) (keypad : Keypad) : Input τ → Bool × Keypad × Input τ
  | .headless keymap => (false, keypad, .headless keymap)
  | .window input =>
      let (quit, keypad, input) := input.poll keypad
      (quit, keypad, .window input)
  | .typing input turns =>
      let (quit, keypad, input) := (input.readOn (turns.headD 0)).poll now keypad
      (quit, keypad, .typing input (turns.drop 1))

def close : Input τ → Input τ
  | .headless keymap => .headless keymap
  | .window input => .window input
  | .typing input turns => .typing input.stop turns

end Input

end Chip8
