import Chip8.Instruction.Basic
import Chip8.Text.Hex

/-! # Mnemonics

The assembly text of an instruction, as traces show it. Registers are written with one digit,
bytes with two and addresses with three.
-/

namespace Chip8.Instruction

def registerText (x : Register) : String := "V" ++ Hex.padded 1 x.val

def byteText (byte : UInt8) : String := "0x" ++ Hex.padded 2 byte.toNat

def addressText (address : Address) : String := "0x" ++ Hex.padded 3 address.val

def onePart (name first : String) : String := name ++ " " ++ first

def twoParts (name first second : String) : String := name ++ " " ++ first ++ ", " ++ second

/-- A shift names its source register only where that register is shifted into the other. -/
def shiftText (name : String) (copies : Bool) (x y : Register) : String :=
  if copies then twoParts name (registerText x) (registerText y)
  else onePart name (registerText x)

/-- The text of an instruction on a machine whose shifts copy `y` into `x` or do not. -/
def mnemonic (shiftsCopy : Bool) : Instruction → String
  | clearScreen => "CLS"
  | ret => "RET"
  | jump address => onePart "JP" (addressText address)
  | call address => onePart "CALL" (addressText address)
  | skipIfByte x byte => twoParts "SE" (registerText x) (byteText byte)
  | skipUnlessByte x byte => twoParts "SNE" (registerText x) (byteText byte)
  | skipIfEqual x y => twoParts "SE" (registerText x) (registerText y)
  | loadByte x byte => twoParts "LD" (registerText x) (byteText byte)
  | addByte x byte => twoParts "ADD" (registerText x) (byteText byte)
  | copy x y => twoParts "LD" (registerText x) (registerText y)
  | or x y => twoParts "OR" (registerText x) (registerText y)
  | and x y => twoParts "AND" (registerText x) (registerText y)
  | xor x y => twoParts "XOR" (registerText x) (registerText y)
  | add x y => twoParts "ADD" (registerText x) (registerText y)
  | subtract x y => twoParts "SUB" (registerText x) (registerText y)
  | shiftRight x y => shiftText "SHR" shiftsCopy x y
  | subtractFrom x y => twoParts "SUBN" (registerText x) (registerText y)
  | shiftLeft x y => shiftText "SHL" shiftsCopy x y
  | skipUnlessEqual x y => twoParts "SNE" (registerText x) (registerText y)
  | loadIndex address => twoParts "LD" "I" (addressText address)
  | jumpOffset address => twoParts "JP" "V0" (addressText address)
  | random x byte => twoParts "RND" (registerText x) (byteText byte)
  | draw x y height =>
      twoParts "DRW" (registerText x) (registerText y) ++ ", 0x" ++ Hex.padded 1 height.val
  | skipIfKey x => onePart "SKP" (registerText x)
  | skipUnlessKey x => onePart "SKNP" (registerText x)
  | readDelay x => twoParts "LD" (registerText x) "DT"
  | awaitKey x => twoParts "LD" (registerText x) "K"
  | setDelay x => twoParts "LD" "DT" (registerText x)
  | setSound x => twoParts "LD" "ST" (registerText x)
  | addIndex x => twoParts "ADD" "I" (registerText x)
  | loadGlyph x => twoParts "LD" "F" (registerText x)
  | storeDecimal x => twoParts "LD" "B" (registerText x)
  | storeRegisters x => twoParts "LD" "[I]" (registerText x)
  | loadRegisters x => twoParts "LD" (registerText x) "[I]"

end Chip8.Instruction
