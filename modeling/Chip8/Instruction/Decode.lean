import Chip8.Instruction.Basic

/-! # Decoding

The first digit of a word picks a family, and in some families the last digit or the last two
pick the instruction. Words in no family of their own belong to the family of `F`, so a number
of more than four digits is decoded by its last two.
-/

namespace Chip8.Instruction

/-- The instructions on two registers, picked by the last digit. -/
def decodeArithmetic (word : Int) : Option Instruction :=
  let x := Word.x word
  let y := Word.y word
  match (Word.nibble word).val with
  | 0x0 => some (.copy x y)
  | 0x1 => some (.or x y)
  | 0x2 => some (.and x y)
  | 0x3 => some (.xor x y)
  | 0x4 => some (.add x y)
  | 0x5 => some (.subtract x y)
  | 0x6 => some (.shiftRight x y)
  | 0x7 => some (.subtractFrom x y)
  | 0xe => some (.shiftLeft x y)
  | _ => none

/-- The instructions on timers, keys, the index and memory, picked by the last two digits. -/
def decodeMisc (word : Int) : Option Instruction :=
  let x := Word.x word
  match (Word.byte word).toNat with
  | 0x07 => some (.readDelay x)
  | 0x0a => some (.awaitKey x)
  | 0x15 => some (.setDelay x)
  | 0x18 => some (.setSound x)
  | 0x1e => some (.addIndex x)
  | 0x29 => some (.loadGlyph x)
  | 0x33 => some (.storeDecimal x)
  | 0x55 => some (.storeRegisters x)
  | 0x65 => some (.loadRegisters x)
  | _ => none

/-- The instruction that a word encodes, if it encodes one. -/
def decode? (word : Int) : Option Instruction :=
  let x := Word.x word
  let y := Word.y word
  let byte := Word.byte word
  let address := Word.address word
  match word / 0x1000 with
  | 0x0 =>
      if word = 0x00e0 then some .clearScreen
      else if word = 0x00ee then some .ret
      else none
  | 0x1 => some (.jump address)
  | 0x2 => some (.call address)
  | 0x3 => some (.skipIfByte x byte)
  | 0x4 => some (.skipUnlessByte x byte)
  | 0x5 => if (Word.nibble word).val = 0 then some (.skipIfEqual x y) else none
  | 0x6 => some (.loadByte x byte)
  | 0x7 => some (.addByte x byte)
  | 0x8 => decodeArithmetic word
  | 0x9 => if (Word.nibble word).val = 0 then some (.skipUnlessEqual x y) else none
  | 0xa => some (.loadIndex address)
  | 0xb => some (.jumpOffset address)
  | 0xc => some (.random x byte)
  | 0xd => some (.draw x y (Word.nibble word))
  | 0xe =>
      match byte.toNat with
      | 0x9e => some (.skipIfKey x)
      | 0xa1 => some (.skipUnlessKey x)
      | _ => none
  | _ => decodeMisc word

end Chip8.Instruction
