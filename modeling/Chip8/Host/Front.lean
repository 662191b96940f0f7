import Chip8.Display.Basic
import Chip8.Keypad

/-! # Front ends

What the host needs of a display and its input: to take the picture's size, titles and pictures,
and to be polled at a time. Each of these may fail, and leaves a front end then too.
-/

namespace Chip8

/-- Why a poll failed. -/
structure PollFault where
  reason : String
deriving DecidableEq, Repr

class Front (τ : outParam Type) (σ : Type) where
  resize : Int → Int → EStateM Display.Fault σ Unit
  setTitle : String → EStateM Display.Fault σ Unit
  draw : Array UInt8 → EStateM Display.Fault σ Unit
  /-- Sets the keypad, and tells whether the user asked to quit. -/
  poll : τ → EStateM PollFault (Keypad × σ) Bool

end Chip8
