import Chip8.CallStack
import Chip8.Framebuffer
import Chip8.Instruction.Basic
import Chip8.Keypad
import Chip8.RandomBytes

/-! # The machine

The state of the machine and its parts: memory, call stack, framebuffer, keypad, the sixteen byte
registers, the index register, two timers and the program counter. The index, the timers, the
program counter and the instruction word are integers; that they keep to their few bits is a
property of what the instructions compute.

An action may fail, and then keeps whatever it changed before it failed.
-/

namespace Chip8

abbrev Registers := Vector UInt8 16

def Registers.write (registers : Registers) (x : Register) (byte : UInt8) : Registers :=
  registers.set x.val byte (Register.val_lt x)

theorem Registers.get_write (registers : Registers) (x y : Register) (byte : UInt8) :
    (registers.write x byte).get y = if y = x then byte else registers.get y := by
  change (registers.set x.val byte (Register.val_lt x))[y.val] =
    if y = x then byte else registers[y.val]
  rw [Vector.getElem_set]
  by_cases same : y = x
  · rw [if_pos same, if_pos (congrArg Fin.val same.symm)]
  · rw [if_neg same, if_neg (fun equal => same (Fin.ext equal.symm))]

/-- Ways in which machines of this kind differ. -/
structure Variant where
  /-- Shifts copy the second register into the first, instead of shifting the first in place. -/
  shiftsCopy : Bool := false
  /-- Testing a key releases it, so that a press is seen once. -/
  testsRelease : Bool := false
deriving DecidableEq, Repr

structure Machine where
  memory : Memory
  stack : CallStack
  framebuffer : Framebuffer
  keypad : Keypad
  registers : Registers
  index : Int
  delay : Int
  sound : Int
  pc : Int
  /-- The address of the instruction in progress, or of the last one. -/
  origin : Int
  /-- The instruction word in progress, or the last one. -/
  word : Int
  /-- The last instruction waited for a key in vain. -/
  awaitingKey : Bool
  variant : Variant
  /-- Every instruction is to be traced. -/
  tracing : Bool
  random : RandomBytes
deriving DecidableEq, Repr

namespace Machine

inductive Fault where
  | memory (fault : Memory.Fault)
  | framebuffer (fault : Framebuffer.Fault)
  /-- A program that is longer than the memory from its start on. -/
  | programTooLong (length room : Int)
  /-- A value that a register cannot hold. -/
  | registerRange (value : Int)
  /-- A word that encodes no instruction. -/
  | unsupported
  | returning (fault : CallStack.Fault)
  | calling (fault : CallStack.Fault)
deriving DecidableEq, Repr

abbrev Action := EStateM Fault Machine

def readByte (location : Int) : Action UInt8 := fun machine =>
  match machine.memory.read location with
  | .ok byte => .ok byte machine
  | .error fault => .error (.memory fault) machine

def writeByte (location : Int) (byte : UInt8) : Action Unit := fun machine =>
  match machine.memory.check location with
  | .ok () => .ok () { machine with memory := machine.memory.put location byte }
  | .error fault => .error (.memory fault) machine

def writeBlock (location : Int) (block : List UInt8) : Action Unit := fun machine =>
  match machine.memory.writeBlock location block with
  | .ok memory => .ok () { machine with memory }
  | .error fault => .error (.memory fault) machine

/-- Performs an action of the framebuffer on the machine's own. -/
def onFramebuffer {α : Type} (action : EStateM Framebuffer.Fault Framebuffer α) : Action α :=
  fun machine =>
    match action machine.framebuffer with
    | .ok value framebuffer => .ok value { machine with framebuffer }
    | .error fault framebuffer => .error (.framebuffer fault) { machine with framebuffer }

def setRegister (x : Register) (byte : UInt8) : Action Unit :=
  modify fun machine => { machine with registers := machine.registers.write x byte }

/-- Sets a register to a value that may be out of its range. -/
def loadRegister (x : Register) (value : Int) : Action Unit :=
  if value < 0 ∨ 255 < value then throw (.registerRange value)
  else setRegister x (UInt8.ofNat value.toNat)

/-- The register that arithmetic and drawing leave a flag in. -/
def flagRegister : Register := Fin.last 15

/-- The register that is added to the target of a jump by an offset. -/
def offsetRegister : Register := ⟨0, Nat.zero_lt_succ 15⟩

def setFlag (flag : Bool) : Action Unit := setRegister flagRegister (if flag then 1 else 0)

/-- Moves the program counter by one instruction. -/
def advance : Action Unit :=
  modify fun machine => { machine with pc := Layout.wrap (machine.pc + 2) }

/-- Moves the program counter back by one instruction, which then runs again. -/
def rewind : Action Unit :=
  modify fun machine => { machine with pc := Layout.wrap (machine.pc - 2) }

def skipWhen (condition : Bool) : Action Unit := if condition then advance else pure ()

/-- The word at the program counter, most significant byte first. The second byte of a word at
the last address is the first of the memory. -/
def fetch : Action Int := do
  let machine ← get
  let high ← readByte (Layout.wrap machine.pc)
  let low ← readByte (Layout.wrap (machine.pc + 1))
  pure (high.toNat * 256 + low.toNat)

def installFont : Action Unit := writeBlock Layout.fontStart Layout.font

/-- Loads a program, and the font before it, so that neither depends on what was there. -/
def load (program : List UInt8) : Action Unit := do
  let machine ← get
  let room := machine.memory.size - Layout.programStart
  if room < program.length then throw (.programTooLong program.length room)
  installFont
  writeBlock Layout.programStart program

/-- The power-on state. Keys stay as they are, and so do the variant, the tracing and the random
bytes to come. -/
def reset : Action Unit := do
  modify fun machine =>
    { machine with
      registers := Vector.replicate 16 0
      index := 0
      delay := 0
      sound := 0
      pc := Layout.programStart
      origin := Layout.programStart
      word := 0
      awaitingKey := false
      stack := machine.stack.clear
      memory := machine.memory.clear
      framebuffer := machine.framebuffer.clear }
  installFont

def tickDown (timer : Int) : Int := if 0 < timer then timer - 1 else timer

/-- One tick of both timers, due sixty times a second however fast instructions run. -/
def tick (machine : Machine) : Machine :=
  { machine with delay := tickDown machine.delay, sound := tickDown machine.sound }

def ticks : Nat → Machine → Machine
  | 0, machine => machine
  | count + 1, machine => ticks count machine.tick

def soundActive (machine : Machine) : Bool := 0 < machine.sound

/-- A machine that was never switched on. -/
def unpowered (variant : Variant) (tracing : Bool) (random : RandomBytes) : Machine where
  memory := Memory.zeros Layout.memorySize
  stack := {}
  framebuffer := Framebuffer.blank
  keypad := {}
  registers := Vector.replicate 16 0
  index := 0
  delay := 0
  sound := 0
  pc := 0
  origin := 0
  word := 0
  awaitingKey := false
  variant
  tracing
  random

/-- The machine that an action leaves, whether or not it failed. -/
def after {α : Type} (action : Action α) (machine : Machine) : Machine :=
  match action machine with
  | .ok _ machine => machine
  | .error _ machine => machine

/-- A machine that was just switched on. -/
def fresh (variant : Variant) (tracing : Bool) (random : RandomBytes) : Machine :=
  after reset (unpowered variant tracing random)

end Machine

end Chip8
