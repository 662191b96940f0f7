import Chip8.Display.Terminal
import Chip8.Display.Window

/-! # Kinds of display

A display is a window, a terminal, or headless, which counts the pictures it is given and shows
none of them.
-/

namespace Chip8

inductive Display where
  | headless (canvas : Display.Canvas) (scale : Display.Length)
  | window (window : Display.Window)
  | terminal (terminal : Display.Terminal)

/-- The kinds of display, each of which has an input of its own kind. -/
inductive FrontKind where
  | headless
  | window
  | terminal
deriving DecidableEq, Repr

namespace Display

def standardScale : Length := .whole 1

def launch (kind : FrontKind) (scale : Option Length) (traits : TerminalTraits) :
    List Command × Except Fault Display :=
  match kind with
  | .headless => ([], .ok (.headless {} (scale.getD standardScale)))
  | .window =>
      let (commands, result) := Window.launch scale
      (commands, result.map .window)
  | .terminal =>
      let (commands, result) := Terminal.launch scale traits
      (commands, result.map .terminal)

def Result.map {δ ε : Type} (wrap : δ → ε) (result : Result δ) : Result ε where
  display := wrap result.display
  commands := result.commands
  fault := result.fault
  unfinished := wrap result.unfinished

def canvas : Display → Canvas
  | headless canvas _ => canvas
  | window shown => shown.canvas
  | terminal shown => shown.canvas

/-- A window's width, a terminal's blanks for a pixel, or what a headless display was given. -/
def scale : Display → Length
  | headless _ scale => scale
  | window shown => shown.width
  | terminal shown => .whole shown.scale

def resize (width height : Int) : Display → Result Display
  | headless canvas scale => { display := .headless (canvas.resize width height) scale }
  | window shown => (shown.resize width height).map .window
  | terminal shown => (shown.resize width height).map .terminal

def draw (cells : Array UInt8) : Display → Result Display
  | headless canvas scale => { display := .headless canvas.countDraw scale }
  | window shown => (shown.draw cells).map .window
  | terminal shown => (shown.draw cells).map .terminal

def setTitle (title : String) : Display → Result Display
  | headless canvas scale => { display := .headless canvas scale }
  | window shown => (shown.setTitle title).map .window
  | terminal shown => (shown.setTitle title).map .terminal

def close : Display → Result Display
  | headless canvas scale => { display := .headless canvas scale }
  | window shown => shown.close.map .window
  | terminal shown => shown.close.map .terminal

end Display

end Chip8
