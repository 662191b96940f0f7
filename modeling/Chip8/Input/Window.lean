import Chip8.Keymap

/-! # Input from a window

A window reports keys as they go down and up, and that it is closed. Closing it asks to quit, and
so does letting go of the escape key, which is then not looked up in the keymap. The rest of a
batch of events is handled even after one that asks to quit.
-/

namespace Chip8

inductive WindowEvent where
  | closed
  | keyDown (code : Int)
  | keyUp (code : Int)
  | other
deriving DecidableEq, Repr

namespace WindowEvent

def escape : Int := 27

/-- Whether an event asks to quit. -/
def asksToQuit : WindowEvent → Bool
  | closed => true
  | keyUp code => code == escape
  | keyDown _ => false
  | other => false

def handle (keymap : Keymap) (keypad : Keypad) : WindowEvent → Keypad
  | keyDown code =>
      match keymap.key? code with
      | some key => keypad.set key true
      | none => keypad
  | keyUp code =>
      if code = escape then keypad
      else match keymap.key? code with
        | some key => keypad.set key false
        | none => keypad
  | closed => keypad
  | other => keypad

/-- Handles a batch of events, and tells whether any of them asks to quit. -/
def handleAll (keymap : Keymap) (events : List WindowEvent) (keypad : Keypad) : Bool × Keypad :=
  (events.any asksToQuit, events.foldl (handle keymap) keypad)

end WindowEvent

/-- The input of a window: its keymap and the batches of events to come. -/
structure WindowInput where
  keymap : Keymap
  batches : List (List WindowEvent) := []
deriving DecidableEq, Repr

/-- Handles the next batch of events. -/
def WindowInput.poll (keypad : Keypad) (input : WindowInput) : Bool × Keypad × WindowInput :=
  let (quit, keypad) := WindowEvent.handleAll input.keymap (input.batches.headD []) keypad
  (quit, keypad, { input with batches := input.batches.drop 1 })

end Chip8
