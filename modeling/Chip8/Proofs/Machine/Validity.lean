import Chip8.Machine.Basic
import Chip8.Proofs.Framebuffer.Basic

/-! # Valid machines

The index, the program counter, the timers and the instruction word are integers of any size, and
a call stack, a memory and a framebuffer may have any extent. A machine is valid if all of them
are as the hardware has them.
-/

namespace Chip8.Machine

/-- Every number is in its range and every part has its size. There are sixteen registers, and
registers and memory hold bytes, by their types. -/
structure Valid (machine : Machine) : Prop where
  memory : machine.memory.size = 0x1000
  pc : 0 ≤ machine.pc ∧ machine.pc ≤ 0xfff
  origin : 0 ≤ machine.origin ∧ machine.origin ≤ 0xfff
  index : 0 ≤ machine.index ∧ machine.index ≤ 0xfff
  word : 0 ≤ machine.word ∧ machine.word ≤ 0xffff
  delay : 0 ≤ machine.delay ∧ machine.delay ≤ 0xff
  sound : 0 ≤ machine.sound ∧ machine.sound ≤ 0xff
  capacity : machine.stack.capacity = 16
  depth : machine.stack.depth ≤ 16
  entries : ∀ entry ∈ machine.stack.entries, 0 ≤ entry ∧ entry ≤ 0xfff
  width : machine.framebuffer.width = 64
  height : machine.framebuffer.height = 32
  cells : machine.framebuffer.cells.size = 2048
  binary : machine.framebuffer.Binary

theorem Valid.framebuffer {machine : Machine} (valid : machine.Valid) :
    machine.framebuffer.WellFormed where
  width := by rw [valid.width]; decide
  height := by rw [valid.height]; decide
  cells := by rw [valid.cells, valid.width, valid.height]; rfl

end Chip8.Machine
