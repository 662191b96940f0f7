import Chip8.Proofs.Machine.Effect

/-! # Switching on and loading

A reset puts a valid machine into the power-on state. Loading a program changes the memory alone,
and changes nothing at all if the program is too long.
-/

namespace Chip8.Machine

variable {machine : Machine}

/-- The power-on state of a machine, which keeps its keys. -/
def restarted (machine : Machine) : Machine :=
  { machine with
    registers := Vector.replicate 16 0
    index := 0
    delay := 0
    sound := 0
    pc := Layout.programStart
    origin := Layout.programStart
    word := 0
    awaitingKey := false
    stack := machine.stack.clear
    memory := machine.memory.clear.place Layout.fontStart Layout.font
    framebuffer := machine.framebuffer.clear }

/-- The memory with the font and a program in their places. -/
def loaded (machine : Machine) (program : List UInt8) : Machine :=
  machine.withMemory
    ((machine.memory.place Layout.fontStart Layout.font).place Layout.programStart program)

theorem writeBlock_eq {location : Int} {block : List UInt8} (least : 0 ≤ location)
    (most : location + block.length ≤ machine.memory.size) :
    writeBlock location block machine =
      .ok () (machine.withMemory (machine.memory.place location block)) := by
  rw [writeBlock, Memory.writeBlock_eq least most]
  rfl

theorem installFont_eq (whole : machine.memory.size = 0x1000) :
    installFont machine =
      .ok () (machine.withMemory (machine.memory.place Layout.fontStart Layout.font)) := by
  apply writeBlock_eq
  · decide
  · rw [whole]
    decide

theorem reset_eq (whole : machine.memory.size = 0x1000) :
    reset machine = .ok () machine.restarted := by
  have cleared : machine.memory.clear.size = 0x1000 := (Memory.size_clear _).trans whole
  rw [reset, bind_ok (modify_eq _ machine), installFont_eq cleared]
  rfl

theorem Valid.load_short (valid : machine.Valid) {program : List UInt8}
    (short : program.length ≤ 0xe00) : load program machine = .ok () (machine.loaded program) := by
  have room : ¬ (machine.memory.size - Layout.programStart : Int) < program.length := by
    rw [valid.memory, Layout.programStart]
    omega
  have inside : Layout.programStart + program.length ≤
      (machine.withMemory (machine.memory.place Layout.fontStart Layout.font)).memory.size := by
    rw [withMemory, Memory.size_place, valid.memory, Layout.programStart]
    omega
  rw [load, bind_ok (get_eq machine)]
  simp only [if_neg room]
  rw [bind_ok (installFont_eq valid.memory)]
  rw [writeBlock_eq (by decide) inside]
  simp only [loaded, withMemory]

theorem Valid.load_long (valid : machine.Valid) {program : List UInt8}
    (long : 0xe00 < program.length) :
    load program machine = .error (.programTooLong program.length 0xe00) machine := by
  have room : (machine.memory.size - Layout.programStart : Int) < program.length := by
    rw [valid.memory, Layout.programStart]
    omega
  rw [load, bind_ok (get_eq machine)]
  simp only
  rw [if_pos room, valid.memory]
  rfl

/-! ### Validity is kept -/

private theorem start_bounds : 0 ≤ Layout.programStart ∧ Layout.programStart ≤ 0xfff := by decide

private theorem zero_bounds {most : Int} (least : 0 ≤ most) : (0 : Int) ≤ 0 ∧ 0 ≤ most :=
  ⟨Int.le_refl 0, least⟩

theorem Valid.restarted (valid : machine.Valid) : machine.restarted.Valid where
  memory := by rw [Machine.restarted, Memory.size_place, Memory.size_clear, valid.memory]
  pc := start_bounds
  origin := start_bounds
  index := zero_bounds (by decide)
  word := zero_bounds (by decide)
  delay := zero_bounds (by decide)
  sound := zero_bounds (by decide)
  capacity := valid.capacity
  depth := Nat.zero_le _
  entries := nofun
  width := valid.width
  height := valid.height
  cells := (Memory.size_clear _).trans valid.cells
  binary := Framebuffer.binary_clear _

theorem Valid.loaded (valid : machine.Valid) (program : List UInt8) :
    (machine.loaded program).Valid :=
  { valid with
    memory := by rw [Machine.loaded, withMemory, Memory.size_place, Memory.size_place, valid.memory] }

/-- A machine that was never switched on is valid. -/
theorem valid_unpowered (variant : Variant) (tracing : Bool) (random : RandomBytes) :
    (unpowered variant tracing random).Valid where
  memory := Memory.size_zeros _
  pc := zero_bounds (by decide)
  origin := zero_bounds (by decide)
  index := zero_bounds (by decide)
  word := zero_bounds (by decide)
  delay := zero_bounds (by decide)
  sound := zero_bounds (by decide)
  capacity := rfl
  depth := Nat.zero_le _
  entries := nofun
  width := rfl
  height := rfl
  cells := Memory.size_zeros _
  binary := by
    intro cell member
    left
    exact Array.eq_of_mem_replicate member

theorem fresh_eq (variant : Variant) (tracing : Bool) (random : RandomBytes) :
    fresh variant tracing random = (unpowered variant tracing random).restarted := by
  rw [fresh, after, reset_eq (valid_unpowered variant tracing random).memory]

/-- A machine that was just switched on is valid. -/
theorem valid_fresh (variant : Variant) (tracing : Bool) (random : RandomBytes) :
    (fresh variant tracing random).Valid := by
  rw [fresh_eq]
  exact (valid_unpowered variant tracing random).restarted

end Chip8.Machine
