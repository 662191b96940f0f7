import Chip8.Display.Pad

/-! # Terminals

The picture in a terminal, where a lit pixel is a few blanks in reverse video, as many as the
scale says. It is drawn on a pad: the title in the top row, in reverse video and cut or filled up
to the picture's width, and the picture below it. The pad has a row and a column to spare.
-/

namespace Chip8

/-- What a terminal is like. -/
structure TerminalTraits where
  /-- Height and width. -/
  screen : Int × Int := (24, 80)
  /-- The cursor visibilities that it cannot switch to. -/
  refusedCursors : List Int := []
  lettering : Display.Lettering := {}
  /-- Whether it refuses a pad of so many rows and columns. -/
  refusesPad : Int → Int → Bool := fun _ _ => false
  /-- How many characters or cells the host has room for. -/
  room : Int := Extent.commonRoom

namespace Display

structure Terminal where
  canvas : Canvas := {}
  /-- How many blanks a pixel has. -/
  scale : Int
  pad : Option Pad := none
  title : String := ""
  traits : TerminalTraits

namespace Terminal

def standardScale : Length := .whole 2

/-! ### Taking over and giving back -/

def switchCursor (traits : TerminalTraits) (visibility : Int) : Giving Unit := do
  give (.cursor visibility)
  if visibility ∈ traits.refusedCursors then throw .cursorRefused

def takeOver (traits : TerminalTraits) : Giving Unit := do
  give .openTerminal
  switchCursor traits 0
  give (.echo false)
  give (.immediateKeys true)

/-- Gives the terminal back. One that cannot show its cursor again is given back all the same. -/
def giveBack (traits : TerminalTraits) : Giving Unit := do
  give (.immediateKeys false)
  give (.echo true)
  try switchCursor traits 1
  catch
    | .cursorRefused => pure ()
    | fault => throw fault
  give .closeTerminal

/-- Takes the terminal over, unless a pixel cannot have so many blanks. -/
def launch (scale : Option Length) (traits : TerminalTraits) :
    List Command × Except Fault Terminal :=
  match scale.getD standardScale with
  | .float _ => ([], .error .notWhole)
  | .whole scale =>
      match Extent.check traits.room scale with
      | .error fault => ([], .error (.extent fault))
      | .ok () =>
          match takeOver traits [] with
          | .error fault commands => (commands.reverse, .error fault)
          | .ok () commands => (commands.reverse, .ok { scale, traits })

def close (terminal : Terminal) : Result Terminal :=
  match giveBack terminal.traits [] with
  | .error fault commands =>
      { display := terminal, commands := commands.reverse, fault := some fault }
  | .ok () commands => { display := terminal, commands := commands.reverse }

/-! ### Sizes -/

/-- Refuses a pad that cannot be made. One without rows may be made whatever its width is. -/
def checkPad (traits : TerminalTraits) (rows columns : Int) : Except Fault Unit :=
  let cells := rows * max columns 1
  match Extent.check traits.room rows with
  | .error fault => .error (.extent fault)
  | .ok () =>
      if traits.refusesPad rows columns then .error .padRefused
      else if rows ≤ 0 then .ok ()
      else match Extent.check traits.room columns with
        | .error fault => .error (.extent fault)
        | .ok () =>
            if traits.room ≤ cells then .error (.extent (.tooLarge cells)) else .ok ()

/-- Gives the picture a size, and a new pad unless it has no extent. A pad that cannot be made
leaves the terminal as it was. -/
def resize (width height : Int) (terminal : Terminal) : Result Terminal :=
  let canvas := terminal.canvas.resize width height
  if width ≠ 0 ∧ height ≠ 0 then
    let rows := height + 2
    let columns := width * terminal.scale + 1
    match checkPad terminal.traits rows columns with
    | .error fault =>
        { display := terminal, commands := [.newPad rows columns], fault := some fault }
    | .ok () =>
        { display := { terminal with canvas, pad := some (Pad.blank rows.toNat columns.toNat) }
          commands := [.newPad rows columns]
          unfinished := terminal }
  else { display := { terminal with canvas } }

/-! ### Pictures -/

def blanks (count : Int) : List Char := List.replicate count.toNat ' '

/-- Draws pixels from a location on. -/
def drawPixels (lettering : Lettering) (width scale : Int) :
    Nat → List UInt8 → EStateM Fault Pad Unit
  | _, [] => pure ()
  | location, pixel :: rest => do
      if width = 0 then throw .noWidth
      let y := Int.fdiv location width
      let x := Int.fmod location width
      Pad.write lettering (y + 1) (x * scale) (pixel ≠ 0) (blanks scale)
      drawPixels lettering width scale (location + 1) rest

/-- The start of a text; of a length below zero, the text without so many characters at its end. -/
def cut (text : List Char) (length : Int) : List Char :=
  if length < 0 then text.take (text.length - length.natAbs) else text.take length.toNat

/-- The title cut or filled up to the picture's width. -/
def titleLine (title : List Char) (length : Int) : List Char :=
  let shown := cut title length
  shown ++ blanks (length - shown.length)

/-- Draws a title as wide as the picture. -/
def drawTitle (traits : TerminalTraits) (length : Int) (title : String) : EStateM Fault Pad Unit :=
  match Extent.check traits.room length with
  | .error fault => throw (.extent fault)
  | .ok () => Pad.write traits.lettering 0 0 true (titleLine title.toList length)

def drawAll (terminal : Terminal) (cells : Array UInt8) : EStateM Fault Pad Unit := do
  let width := terminal.canvas.width
  drawPixels terminal.traits.lettering width terminal.scale 0 cells.toList
  drawTitle terminal.traits (width * terminal.scale) terminal.title

/-- Draws a picture and shows it. One that is not shown is not counted. -/
def draw (cells : Array UInt8) (terminal : Terminal) : Result Terminal :=
  match terminal.pad with
  | none => { display := terminal }
  | some pad =>
      match terminal.drawAll cells pad with
      | .error fault pad =>
          { display := { terminal with pad := some pad }, fault := some fault }
      | .ok _ pad =>
          let (height, width) := terminal.traits.screen
          { display := { terminal with pad := some pad, canvas := terminal.canvas.countDraw }
            commands := [.refresh (height - 1) (width - 1) pad.rows]
            unfinished := { terminal with pad := some pad } }

def setTitle (title : String) (terminal : Terminal) : Result Terminal where
  display := { terminal with title }

end Terminal

end Display

end Chip8
