/-! # Memory map and resources

The sizes of the machine's parts, where programs and the font lie in memory, and the font: for
each hexadecimal digit a glyph of five rows, of which the upper four bits are drawn.
-/

namespace Chip8.Layout

def memorySize : Nat := 0x1000

/-- Programs are loaded here, and execution starts here. -/
def programStart : Int := 0x200

def fontStart : Int := 0x50

def glyphSize : Nat := 5

def registerCount : Nat := 16

def keyCount : Nat := 16

def stackLevels : Nat := 16

def screenWidth : Nat := 64

def screenHeight : Nat := 32

/-- An address of twelve bits. -/
def wrap (address : Int) : Int := address % 0x1000

def font : List UInt8 := [
  0xf0, 0x90, 0x90, 0x90, 0xf0,
  0x20, 0x60, 0x20, 0x20, 0x70,
  0xf0, 0x10, 0xf0, 0x80, 0xf0,
  0xf0, 0x10, 0xf0, 0x10, 0xf0,
  0x90, 0x90, 0xf0, 0x10, 0x10,
  0xf0, 0x80, 0xf0, 0x10, 0xf0,
  0xf0, 0x80, 0xf0, 0x90, 0xf0,
  0xf0, 0x10, 0x20, 0x40, 0x40,
  0xf0, 0x90, 0xf0, 0x90, 0xf0,
  0xf0, 0x90, 0xf0, 0x10, 0xf0,
  0xf0, 0x90, 0xf0, 0x90, 0x90,
  0xe0, 0x90, 0xe0, 0x90, 0xe0,
  0xf0, 0x80, 0x80, 0x80, 0xf0,
  0xe0, 0x90, 0x90, 0x90, 0xe0,
  0xf0, 0x80, 0xf0, 0x80, 0xf0,
  0xf0, 0x80, 0xf0, 0x80, 0x80]

theorem length_font : font.length = keyCount * glyphSize := rfl

theorem wrap_nonneg (address : Int) : 0 ≤ wrap address := by
  simp only [wrap]; omega

theorem wrap_lt (address : Int) : wrap address < memorySize := by
  simp only [wrap, memorySize]; omega

end Chip8.Layout
