/-! # Instructions

The instructions of the machine with their operands. An instruction word of four hexadecimal
digits holds the operands at fixed places: register `x` in the second digit, register `y` in the
third, and a nibble, a byte or an address in the last one, two or three digits.
-/

namespace Chip8

abbrev Register := Fin 16

theorem Register.val_lt (x : Register) : x.val < 16 := x.isLt

abbrev Address := Fin 4096

inductive Instruction where
  | clearScreen
  | ret
  | jump (address : Address)
  | call (address : Address)
  | skipIfByte (x : Register) (byte : UInt8)
  | skipUnlessByte (x : Register) (byte : UInt8)
  | skipIfEqual (x y : Register)
  | loadByte (x : Register) (byte : UInt8)
  | addByte (x : Register) (byte : UInt8)
  | copy (x y : Register)
  | or (x y : Register)
  | and (x y : Register)
  | xor (x y : Register)
  | add (x y : Register)
  | subtract (x y : Register)
  | shiftRight (x y : Register)
  | subtractFrom (x y : Register)
  | shiftLeft (x y : Register)
  | skipUnlessEqual (x y : Register)
  | loadIndex (address : Address)
  | jumpOffset (address : Address)
  | random (x : Register) (byte : UInt8)
  | draw (x y : Register) (height : Fin 16)
  | skipIfKey (x : Register)
  | skipUnlessKey (x : Register)
  | readDelay (x : Register)
  | awaitKey (x : Register)
  | setDelay (x : Register)
  | setSound (x : Register)
  | addIndex (x : Register)
  | loadGlyph (x : Register)
  | storeDecimal (x : Register)
  | storeRegisters (x : Register)
  | loadRegisters (x : Register)
deriving DecidableEq, Repr

/-! ### Operands of a word -/

namespace Word

/-- The operand register in the second digit. -/
def x (word : Int) : Register := ⟨(word / 0x100 % 16).toNat, by omega⟩

/-- The operand register in the third digit. -/
def y (word : Int) : Register := ⟨(word / 0x10 % 16).toNat, by omega⟩

/-- The last digit. -/
def nibble (word : Int) : Fin 16 := ⟨(word % 16).toNat, by omega⟩

/-- The last two digits. -/
def byte (word : Int) : UInt8 := UInt8.ofNat (word % 0x100).toNat

/-- The last three digits. -/
def address (word : Int) : Address := ⟨(word % 0x1000).toNat, by omega⟩

end Word

end Chip8
