import Chip8.Display.Basic

/-! # Terminal pads

A pad is a rectangle of character cells that text is written on, one cell after another. Text that
reaches beyond the pad is refused at its first cell outside, and what was written before stays. So
is text that reaches the last cell, since the cursor has no place behind it.
-/

namespace Chip8.Display

/-- How a terminal lays text out on cells. -/
structure Lettering where
  /-- How many cells a character takes. One that takes none is shown with the one before it. -/
  cellsOf : Char → Nat := fun _ => 1
  /-- Text goes on in the next row at the end of a row. -/
  wraps : Bool := false

/-- The characters of a text, each as often as it takes cells. -/
def Lettering.spread (lettering : Lettering) (text : List Char) : List Char :=
  text.flatMap fun c => List.replicate (lettering.cellsOf c) c

structure Pad where
  height : Nat
  width : Nat
  /-- The cells, row by row. -/
  cells : Array Cell
deriving DecidableEq, Repr

namespace Pad

/-- An untouched pad. -/
def blank (height width : Nat) : Pad := ⟨height, width, Array.replicate (height * width) .untouched⟩

def cellAt (pad : Pad) (y x : Nat) : Cell :=
  if x < pad.width then pad.cells.getD (y * pad.width + x) .untouched else .untouched

def holds (pad : Pad) (y x : Int) : Bool := 0 ≤ y && y < pad.height && 0 ≤ x && x < pad.width

def endsAt (pad : Pad) (y x : Int) : Bool := y + 1 == pad.height && x + 1 == pad.width

/-- Where text goes on behind a cell. -/
def behind (pad : Pad) (wraps : Bool) (y x : Int) : Int × Int :=
  if wraps && x + 1 == pad.width then (y + 1, 0) else (y, x + 1)

def put (pad : Pad) (y x : Nat) (cell : Cell) : Pad :=
  { pad with cells := pad.cells.setIfInBounds (y * pad.width + x) cell }

/-- Writes one character on each cell, from a cell on. -/
def fill (wraps : Bool) (y x : Int) (reversed : Bool) : List Char → EStateM Fault Pad Unit
  | [] => pure ()
  | c :: rest => do
      if (← get).holds y x then
        modify fun pad => pad.put y.toNat x.toNat (.written c reversed)
        if (← get).endsAt y x then throw .outsidePad
        let next := (← get).behind wraps y x
        fill wraps next.1 next.2 reversed rest
      else throw .outsidePad

/-- Writes text from a cell on. -/
def write (lettering : Lettering) (y x : Int) (reversed : Bool) (text : List Char) :
    EStateM Fault Pad Unit :=
  fill lettering.wraps y x reversed (lettering.spread text)

def row (pad : Pad) (y : Nat) : Array Cell :=
  pad.cells.extract (y * pad.width) ((y + 1) * pad.width)

def rows (pad : Pad) : Array (Array Cell) := (Array.range pad.height).map pad.row

end Pad

end Chip8.Display
