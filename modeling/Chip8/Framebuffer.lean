import Chip8.Layout
import Chip8.Memory

/-! # Framebuffer

The picture that programs draw on: a cell for each pixel, row by row from the top left, 0 for
dark and 1 for lit. Programs cannot store into it; they draw sprites, which flip cells.
Coordinates wrap around at both edges.

The framebuffer remembers whether it was written since it was last presented, so that a display
redraws only then.
-/

namespace Chip8

structure Framebuffer where
  width : Int
  height : Int
  cells : Memory
  dirty : Bool
deriving DecidableEq, Repr

namespace Framebuffer

inductive Fault where
  /-- No coordinate can wrap at an edge of no length. -/
  | noExtent
  | memory (fault : Memory.Fault)
deriving DecidableEq, Repr

/-- A framebuffer of dark cells. -/
def ofSize (width height : Int) (room : Int := Extent.commonRoom) : Except Fault Framebuffer :=
  match Memory.ofSize (width * height) room with
  | .ok cells => .ok ⟨width, height, cells, false⟩
  | .error fault => .error (.memory fault)

/-- The framebuffer of the machine. -/
def blank : Framebuffer :=
  ⟨Layout.screenWidth, Layout.screenHeight,
    Memory.zeros (Layout.screenWidth * Layout.screenHeight), false⟩

def clear (framebuffer : Framebuffer) : Framebuffer :=
  { framebuffer with cells := framebuffer.cells.clear, dirty := true }

/-- The cells in drawing order. -/
def view (framebuffer : Framebuffer) : Array UInt8 := framebuffer.cells.bytes

/-- The location of the cell at wrapped coordinates. -/
def locate (framebuffer : Framebuffer) (x y : Int) : Except Fault Int :=
  if framebuffer.height = 0 ∨ framebuffer.width = 0 then .error .noExtent
  else .ok (y.fmod framebuffer.height * framebuffer.width + x.fmod framebuffer.width)

def readCell (framebuffer : Framebuffer) (location : Int) : Except Fault UInt8 :=
  (framebuffer.cells.read location).mapError .memory

def getPixel (framebuffer : Framebuffer) (x y : Int) : Except Fault UInt8 :=
  framebuffer.locate x y >>= framebuffer.readCell

/-- Flips a pixel, and tells whether it was lit before. -/
def xorPixel (x y : Int) : EStateM Fault Framebuffer Bool := fun framebuffer =>
  match framebuffer.locate x y with
  | .error fault => .error fault framebuffer
  | .ok location =>
    match framebuffer.cells.read location with
    | .error fault => .error (.memory fault) framebuffer
    | .ok pixel =>
      match framebuffer.cells.check location with
      | .error fault => .error (.memory fault) framebuffer
      | .ok () =>
        .ok (pixel ≠ 0)
          { framebuffer with
            cells := framebuffer.cells.put location (pixel ^^^ 1)
            dirty := true }

/-- Flips pixels in order, and tells whether any of them was lit when its turn came. -/
def xorPixels : List (Int × Int) → EStateM Fault Framebuffer Bool
  | [] => pure false
  | (x, y) :: rest => do
      let lit ← xorPixel x y
      let more ← xorPixels rest
      pure (lit || more)

def spriteWidth : Nat := 8

/-- Whether a column of a sprite's row is set, the most significant bit on the left. -/
def rowBit (row : UInt8) (column : Nat) : Bool := row.toNat.testBit (7 - column)

/-- The columns that are set in a sprite's row. -/
def rowColumns (row : UInt8) : List Nat := (List.range spriteWidth).filter (rowBit row)

/-- The pixels of a sprite with its top left corner at `(x, y)`, row by row. -/
def spritePixels (x y : Int) : List UInt8 → List (Int × Int)
  | [] => []
  | row :: rest =>
      (rowColumns row).map (fun (column : Nat) => (x + column, y)) ++ spritePixels x (y + 1) rest

/-- Draws a sprite, one byte for each row, and tells whether any pixel was switched off. -/
def drawSprite (x y : Int) (rows : List UInt8) : EStateM Fault Framebuffer Bool :=
  fun framebuffer =>
    if framebuffer.width = 0 ∨ framebuffer.height = 0 then .error .noExtent framebuffer
    else xorPixels (spritePixels (x.fmod framebuffer.width) (y.fmod framebuffer.height) rows)
      framebuffer

/-- Hands the cells to a display if they were written since the last time, and tells whether it
did. A display that fails leaves the framebuffer to be presented again. -/
def present {ε σ : Type} (framebuffer : Framebuffer) (draw : Array UInt8 → EStateM ε σ Unit) :
    EStateM ε σ (Bool × Framebuffer) := do
  if framebuffer.dirty then
    draw framebuffer.view
    pure (true, { framebuffer with dirty := false })
  else
    pure (false, framebuffer)

end Framebuffer

end Chip8
