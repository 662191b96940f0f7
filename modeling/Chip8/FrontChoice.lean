import Chip8.Display.Any
import Chip8.Settings

/-! # Choice of the front end

Unless one is chosen, the front end is a window where there is a window system, and otherwise a
terminal where terminals can be controlled. One that is chosen is never replaced by another.
-/

namespace Chip8

/-- What front ends the surroundings allow. -/
structure Facilities where
  windows : Bool := true
  terminals : Bool := true
deriving DecidableEq, Repr

namespace FrontChoice

inductive Fault where
  | noWindows
  | noTerminals
  | neither
  | unknown (name : String)
deriving DecidableEq, Repr

def choose (facilities : Facilities) (renderer : Setting) : Except Fault FrontKind :=
  match renderer with
  | .standard =>
      if facilities.windows then .ok .window
      else if facilities.terminals then .ok .terminal
      else .error .neither
  | .text "pygame" => if facilities.windows then .ok .window else .error .noWindows
  | .text "curses" => if facilities.terminals then .ok .terminal else .error .noTerminals
  | .text "null" => .ok .headless
  | other => .error (.unknown other.shown)

def Fault.message : Fault → String
  | noWindows => "PyGame does not appear to be installed."
  | noTerminals => "Curses (or Windows-Curses) does not appear to be installed."
  | neither => "Neither PyGame nor Curses (or Windows-Curses) appear to be installed."
  | unknown name => "Unknown renderer '" ++ name ++ "'."

end FrontChoice

end Chip8
