import Chip8.Machine.Basic
import Chip8.Product
import Chip8.Text.Hex

/-! # Dumps and crash reports

A dump shows the registers from the last to the first, the index, both timers, the address and
the word of the instruction in progress, and the instruction's text. A full dump adds the call
stack, outermost entry first. A crash report is a full dump with the reason for the crash.
-/

namespace Chip8.Machine

def registersText (registers : Registers) : String :=
  Hex.ofBytes registers.toList.reverse

/-- The machine's registers beside the text of an instruction. -/
def dump (machine : Machine) (instruction : String) : String :=
  "V: 0x" ++ registersText machine.registers ++
    " I: 0x" ++ Hex.padded 3 machine.index ++
    " DT: 0x" ++ Hex.padded 2 machine.delay ++
    " ST: 0x" ++ Hex.padded 2 machine.sound ++
    " PC: 0x" ++ Hex.padded 3 machine.origin ++
    " OP: 0x" ++ Hex.padded 4 machine.word ++
    " IN: " ++ instruction

def stackText (stack : CallStack) : String :=
  if stack.entries = [] then " (Empty)"
  else String.join (stack.fromOutermost.map fun entry => " 0x" ++ Hex.padded 3 entry)

/-- A dump with the call stack on a line of its own. -/
def fullDump (machine : Machine) (instruction : String) : String :=
  machine.dump instruction ++ "\nStack:" ++ stackText machine.stack

def crashReport (machine : Machine) (reason : String) : String :=
  "Emulation halted.\n\n" ++ Product.intro ++ "Debug info:\n" ++
    machine.fullDump "???" ++ "\n\n" ++ reason

/-- What a fault says of the machine that it stopped. -/
def Fault.message (machine : Machine) : Fault → String
  | memory fault => fault.message
  | framebuffer (.memory fault) => fault.message
  | framebuffer .noExtent => "The framebuffer has no extent"
  | programTooLong length room =>
      s!"ROM is {length} bytes, but only {room} bytes are available from address 0x" ++
        Hex.padded 3 Layout.programStart
  | registerRange value => s!"A register cannot hold {value}"
  | unsupported =>
      machine.crashReport ("Opcode 0x" ++ Hex.padded 4 machine.word ++ " at address 0x" ++
        Hex.padded 3 machine.origin ++ " is not a CHIP-8 instruction.")
  | returning fault =>
      machine.crashReport (fault.message ++ " returning from address 0x" ++
        Hex.padded 3 machine.origin ++ ".")
  | calling fault =>
      machine.crashReport (fault.message ++ " calling 0x" ++
        Hex.padded 3 (Word.address machine.word).val ++ " from address 0x" ++
        Hex.padded 3 machine.origin ++ ".")

end Chip8.Machine
