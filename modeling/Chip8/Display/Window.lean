import Chip8.Display.Basic
import Chip8.Product

/-! # Windows

The picture in a window. Its pixels are kept as an image of the picture's own size, in two
colours, which the window system stretches to the window's size. The window is half as high as it
is wide.
-/

namespace Chip8.Display

structure Window where
  canvas : Canvas := {}
  /-- The image, once the picture has a size. -/
  pixels : Option (Array Colour) := none
  width : Length
  /-- How many bytes the host has room for. -/
  room : Int := Extent.commonRoom
deriving DecidableEq, Repr

namespace Window

def background : Colour := ⟨0x22, 0x22, 0x22⟩

def foreground : Colour := ⟨0xdd, 0xdd, 0xdd⟩

def colour? (pixel : UInt8) : Option Colour :=
  if pixel = 0 then some background else if pixel = 1 then some foreground else none

def standardWidth : Length := .whole 640

def leastWidth : Int := 64

def launch (scale : Option Length) : List Command × Except Fault Window :=
  let width := scale.getD standardWidth
  if width.isBelow leastWidth then ([], .error .tooNarrow)
  else ([.openWindows, .caption Product.name, .setMode width width.half], .ok { width })

/-- How many bytes an image of so many pixels has; fewer than none where the pixels are. -/
def imageExtent (pixels : Int) : Int := max pixels (3 * pixels)

/-- Gives the picture a size, with an image of dark pixels; a picture of no size has no image. An
image that cannot be made leaves the window as it was. -/
def resize (width height : Int) (window : Window) : Result Window :=
  let canvas := window.canvas.resize width height
  if width ≠ 0 ∧ height ≠ 0 then
    match Extent.check window.room (imageExtent (width * height)) with
    | .error fault => { display := window, fault := some (.extent fault) }
    | .ok () =>
        let pixels := Array.replicate (width * height).toNat background
        { display := { window with canvas, pixels := some pixels } }
  else { display := { window with canvas, pixels := none } }

/-- Sets a pixel of an image, which grows by one pixel at its end. -/
def setPixel (pixels : Array Colour) (position : Nat) (colour : Colour) : Array Colour :=
  if position < pixels.size then pixels.setIfInBounds position colour else pixels.push colour

/-- Sets pixels from a position on, up to the first that has no colour. -/
def setPixels : Nat → List UInt8 → EStateM Fault (Array Colour) Unit
  | _, [] => pure ()
  | position, pixel :: rest => do
      match colour? pixel with
      | none => throw (.noColour pixel)
      | some colour =>
          modify fun pixels => setPixel pixels position colour
          setPixels (position + 1) rest

/-- Draws a picture and shows it. One that is not shown is not counted. -/
def draw (cells : Array UInt8) (window : Window) : Result Window :=
  match window.pixels with
  | none => { display := window }
  | some pixels =>
      match setPixels 0 cells.toList pixels with
      | .error fault pixels =>
          { display := { window with pixels := some pixels }, fault := some fault }
      | .ok _ pixels =>
          { display :=
              { window with pixels := some pixels, canvas := window.canvas.countDraw }
            commands := [
              .image pixels window.canvas.width window.canvas.height,
              .stretch window.width window.width.half, .place 0 0, .flip]
            unfinished := { window with pixels := some pixels } }

def setTitle (title : String) (window : Window) : Result Window where
  display := window
  commands := [.caption title]

def close (window : Window) : Result Window where
  display := window
  commands := [.closeWindows]

end Window

end Chip8.Display
