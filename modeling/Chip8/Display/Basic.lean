import Chip8.Extent

/-! # Displays

What all displays have in common. A display drives a window system or a terminal by commands,
which it returns beside its own new state. An operation that fails still gave the commands up to
there and changed what it changed.
-/

namespace Chip8.Display

structure Colour where
  red : UInt8
  green : UInt8
  blue : UInt8
deriving DecidableEq, Repr

/-- A number of pixels, which a window system may be given in floating point. -/
inductive Length where
  | whole (pixels : Int)
  /-- The bits of a float. -/
  | float (bits : UInt64)
deriving DecidableEq, Repr

namespace Length

def isBelow (least : Int) : Length → Bool
  | whole pixels => pixels < least
  | float bits => Float.ofBits bits < Float.ofInt least

/-- Half a length, rounded down; half of an infinite one is not a number. -/
def half : Length → Length
  | whole pixels => whole (pixels.fdiv 2)
  | float bits =>
      let pixels := Float.ofBits bits
      float (if pixels.isInf then pixels - pixels else (pixels / 2.0).floor).toBits

end Length

/-- A character cell of a terminal pad. -/
inductive Cell where
  | untouched
  | written (character : Char) (reversed : Bool)
deriving DecidableEq, Repr

inductive Command where
  /-- Opens the window system. -/
  | openWindows
  | closeWindows
  | caption (text : String)
  | setMode (width height : Length)
  /-- Makes an image of pixels, row by row. -/
  | image (pixels : Array Colour) (width height : Int)
  /-- Stretches the image. -/
  | stretch (width height : Length)
  /-- Copies the stretched image onto the window. -/
  | place (x y : Int)
  /-- Shows what was drawn on the window. -/
  | flip
  /-- Takes the terminal over. -/
  | openTerminal
  | closeTerminal
  | cursor (visibility : Int)
  | echo (on : Bool)
  | immediateKeys (on : Bool)
  | newPad (height width : Int)
  /-- Shows the pad's rows on the terminal, up to its last row and column. -/
  | refresh (lastRow lastColumn : Int) (rows : Array (Array Cell))
deriving DecidableEq, Repr

inductive Fault where
  /-- The window is to be narrower than the picture. -/
  | tooNarrow
  /-- The scale of a terminal is in floating point. -/
  | notWhole
  /-- The terminal cannot change its cursor. -/
  | cursorRefused
  /-- The terminal cannot make a pad of this extent. -/
  | padRefused
  /-- The system that shows the display failed at a command. -/
  | commandRefused (reason : String)
  /-- Text, or the cursor behind it, reaches beyond the pad. -/
  | outsidePad
  /-- A pixel is neither dark nor lit. -/
  | noColour (pixel : UInt8)
  /-- Pixels cannot be placed in rows of no width. -/
  | noWidth
  | extent (fault : Extent.Fault)
deriving DecidableEq, Repr

def Fault.message : Fault → String
  | tooNarrow => "Window width must be at least 64 pixels."
  | notWhole => "The scale is not a whole number"
  | cursorRefused => "The terminal cannot change its cursor"
  | padRefused => "The terminal cannot make such a pad"
  | commandRefused reason => reason
  | outsidePad => "The text reaches beyond the pad"
  | noColour pixel => s!"{pixel} is not a colour"
  | noWidth => "The picture has no width"
  | extent fault => fault.message

/-- What an operation leaves: the display, the commands it gave, and its fault, if it failed. -/
structure Result (δ : Type) where
  display : δ
  commands : List Command := []
  fault : Option Fault := none
  /-- What is left of the display if the system refuses one of the commands. -/
  unfinished : δ := display

/-- Commands given one after another, the latest first, by something that may fail between them. -/
abbrev Giving := EStateM Fault (List Command)

def give (command : Command) : Giving Unit := modify (command :: ·)

/-- The picture's size, and how often it was drawn. -/
structure Canvas where
  width : Int := 0
  height : Int := 0
  draws : Nat := 0
deriving DecidableEq, Repr

def Canvas.resize (width height : Int) (canvas : Canvas) : Canvas := { canvas with width, height }

def Canvas.countDraw (canvas : Canvas) : Canvas := { canvas with draws := canvas.draws + 1 }

end Chip8.Display
