import Chip8.Proofs.Framebuffer.Sprites
import Chip8.Proofs.Machine.Failures

/-! # Drawing from memory

The machine draws sprites that fit its screen, so a drawing switches a pixel off if and only if a
pixel is lit before and dark after. The flag tells this, and is cleared before the position is
read. A drawing changes nothing that it depends on but the flag, and a second one undoes it.
-/

namespace Chip8

theorem Registers.write_write (registers : Registers) (x : Register) (first second : UInt8) :
    (registers.write x first).write x second = registers.write x second :=
  Vector.set_set ..

namespace Machine

variable {machine : Machine}

/-- The coordinate that a register holds for a sprite, with the flag taken as cleared. -/
def coordinate (machine : Machine) (x : Register) : Int :=
  if x = flagRegister then 0 else (machine.registers.get x).toNat

theorem toNat_get_withFlag (machine : Machine) (x : Register) :
    (((machine.withFlag false).registers.get x).toNat : Int) = machine.coordinate x := by
  rw [withFlag, withRegister, Registers.get_write, coordinate]
  split <;> rfl

/-! ### The flag -/

theorem get_drawn (machine : Machine) (x y other : Register) (height : Nat) :
    (machine.drawn x y height).registers.get other =
      if other = flagRegister then
        if machine.framebuffer.collides (machine.spriteAt x y height) = true then 1 else 0
      else machine.registers.get other := by
  simp only [drawn, withFlag, withRegister, Registers.get_write]
  split <;> rfl

theorem flag_drawn_eq_one_iff (machine : Machine) (x y : Register) (height : Nat) :
    (machine.drawn x y height).registers.get flagRegister = 1 ↔
      machine.framebuffer.collides (machine.spriteAt x y height) = true := by
  rw [get_drawn, if_pos rfl]
  split <;> simp [*]

theorem flag_drawn_eq_zero_iff (machine : Machine) (x y : Register) (height : Nat) :
    (machine.drawn x y height).registers.get flagRegister = 0 ↔
      ¬ machine.framebuffer.collides (machine.spriteAt x y height) = true := by
  rw [get_drawn, if_pos rfl]
  split <;> simp [*]

/-! ### The sprite -/

theorem Valid.hits_spriteAt (valid : machine.Valid) (x y : Register) (height : Fin 16)
    (location : Int) :
    machine.framebuffer.hits (machine.spriteAt x y height.val) location ≤ 1 := by
  apply valid.framebuffer.hits_le_one
  · rw [valid.width]
    decide
  · rw [valid.height, Memory.length_span]
    omega

/-- A drawing changes the flag only, among the registers, so it leaves the sprite in its place. -/
theorem spriteAt_drawn (machine : Machine) (x y : Register) (height : Nat) :
    (machine.drawn x y height).spriteAt x y height = machine.spriteAt x y height := by
  simp only [drawn, spriteAt, withFlag, withRegister, Registers.write_write,
    Framebuffer.width_flips, Framebuffer.height_flips]

theorem Valid.drawSprite_drawn (valid : machine.Valid) (x y : Register) (height : Nat) :
    Framebuffer.drawSprite (machine.coordinate x % 64) (machine.coordinate y % 32)
        (machine.memory.span machine.index height) machine.framebuffer =
      .ok (machine.framebuffer.collides (machine.spriteAt x y height))
        (machine.drawn x y height).framebuffer := by
  have wraps (start : Int) {extent : Int} (positive : 0 ≤ extent) :
      (start % extent).fmod extent = start.fmod extent := by
    rw [Int.fmod_eq_emod_of_nonneg _ positive, Int.fmod_eq_emod_of_nonneg _ positive,
      Int.emod_emod]
  have placed : machine.spriteAt x y height = Framebuffer.spritePixels
      ((machine.coordinate x % 64).fmod machine.framebuffer.width)
      ((machine.coordinate y % 32).fmod machine.framebuffer.height)
      (machine.memory.span machine.index height) := by
    rw [valid.width, valid.height, wraps _ (by decide), wraps _ (by decide), spriteAt,
      toNat_get_withFlag, toNat_get_withFlag, valid.width, valid.height]
  rw [valid.framebuffer.drawSprite_eq, Machine.drawn, placed]
  rfl

/-! ### Drawing twice -/

/-- A sprite is drawn where its registers say, and the flag tells whether a pixel is switched off.
Nothing else changes. Drawing it again restores the picture, and one of the two drawings switches a
pixel off unless the sprite has none. -/
theorem draw_twice (valid : machine.Valid) (x y : Register) (height : Fin 16) :
    let rows := (List.range height).map fun (row : ℕ) =>
      machine.memory.byteAt (Layout.wrap (machine.index + row))
    ∃ first second collided,
      execute (.draw x y height) machine = .ok () first ∧
      execute (.draw x y height) first = .ok () second ∧
      Framebuffer.drawSprite (machine.coordinate x % 64) (machine.coordinate y % 32) rows
        machine.framebuffer = .ok collided first.framebuffer ∧
      (first.registers.get flagRegister = 1 ↔
        machine.framebuffer.Darkens first.framebuffer) ∧
      (first.registers.get flagRegister = 0 ↔
        ¬ machine.framebuffer.Darkens first.framebuffer) ∧
      (∀ other, other ≠ flagRegister → first.registers.get other = machine.registers.get other) ∧
      first = { machine with
        registers := first.registers, framebuffer := first.framebuffer } ∧
      second.framebuffer.cells = machine.framebuffer.cells ∧
      (first.registers.get flagRegister = 1 ∨ second.registers.get flagRegister = 1 ↔
        ∃ row ∈ rows, row ≠ 0) ∧
      (machine.nextWord = Instruction.encode (.draw x y height) →
        machine.cycle.fault = none ∧
          machine.cycle.machine = { first with
            origin := machine.pc
            word := machine.nextWord
            pc := Layout.wrap (machine.pc + 2) }) := by
  intro rows
  have spanned : machine.memory.span machine.index height = rows := Memory.span_eq_map ..
  have darkens := valid.framebuffer.collides_iff_darkens valid.binary
    (valid.hits_spriteAt x y height)
  have again := (valid.drawn x y height.val).draw_eq x y height
  refine ⟨_, _, machine.framebuffer.collides _, valid.draw_eq x y height, again,
    spanned ▸ valid.drawSprite_drawn x y height.val, ?_, ?_, ?_, rfl, ?_, ?_, ?_⟩
  · exact (flag_drawn_eq_one_iff ..).trans darkens
  · exact (flag_drawn_eq_zero_iff ..).trans (not_congr darkens)
  · intro other unflagged
    rw [get_drawn, if_neg unflagged]
  · rw [drawn, spriteAt_drawn]
    exact valid.framebuffer.cells_flips_flips _
  · rw [flag_drawn_eq_one_iff, flag_drawn_eq_one_iff, spriteAt_drawn, ← spanned,
      ← Framebuffer.spritePixels_ne_nil_iff]
    exact valid.framebuffer.collides_or_collides_iff _
  · intro word
    rw [valid.cycle_decoded (decode?_nextWord_iff.mpr word.symm)]
    exact ⟨rfl, rfl⟩

/-- A machine about to draw at the position of the flag, across the bottom of a screen whose first
pixel is lit. The second row of the sprite is behind the end of memory. -/
def edgeDrawer : Machine :=
  { unpowered {} false {} with
    memory := (Memory.zeros Layout.memorySize).place 0 [0xdf, 0x12]
    framebuffer := { Framebuffer.blank with cells := Framebuffer.blank.cells.put 0 1 }
    index := 0xfff
    registers := Vector.replicate 16 0x9f }

theorem valid_edgeDrawer : edgeDrawer.Valid :=
  { valid_unpowered {} false {} with
    memory := by rw [edgeDrawer, Memory.size_place, Memory.size_zeros]; rfl
    index := by decide
    cells := by rw [edgeDrawer, Memory.size_put]; exact (valid_unpowered {} false {}).cells
    binary := fun _ member =>
      (Memory.mem_put member).imp_left Array.eq_of_mem_replicate }

theorem draw_twice_edgeDrawer :
    edgeDrawer.Valid ∧ edgeDrawer.nextWord = 0xdf12 ∧
      ∃ first second,
        execute (.draw 0xf 1 2) edgeDrawer = .ok () first ∧
        execute (.draw 0xf 1 2) first = .ok () second ∧
        Framebuffer.drawSprite 0 31 [0, 0xdf] edgeDrawer.framebuffer = .ok true first.framebuffer ∧
        first.registers.get flagRegister = 1 ∧ first.registers.get 1 = 0x9f ∧
        second.framebuffer.cells = edgeDrawer.framebuffer.cells ∧
        edgeDrawer.cycle.machine.framebuffer = first.framebuffer := by
  have word : edgeDrawer.nextWord = Instruction.encode (.draw 0xf 1 2) := by decide +kernel
  have rows : ((List.range (2 : Fin 16)).map fun (row : ℕ) =>
      edgeDrawer.memory.byteAt (Layout.wrap (edgeDrawer.index + row))) = [0, 0xdf] := by
    decide +kernel
  have lit : edgeDrawer.framebuffer.lit 0 0 = true := by decide +kernel
  have dark : (match Framebuffer.drawSprite 0 31 [0, 0xdf] edgeDrawer.framebuffer with
      | .ok collided left => collided && !left.lit 0 0
      | .error _ _ => false) = true := by
    decide +kernel
  have column : edgeDrawer.coordinate 0xf % 64 = 0 := by decide
  have row : edgeDrawer.coordinate 1 % 32 = 31 := by decide
  obtain ⟨first, second, collided, draws, again, drew, flag, -, others, -, restored, -, cycles⟩ :=
    draw_twice valid_edgeDrawer 0xf 1 2
  rw [column, row, rows] at drew
  rw [drew] at dark
  obtain ⟨rfl, unlit⟩ := Bool.and_eq_true_iff.mp dark
  refine ⟨valid_edgeDrawer, word, first, second, draws, again, drew, ?_, ?_, restored, ?_⟩
  · exact flag.mpr ⟨0, 0, lit, (Bool.not_eq_true' _).mp unlit⟩
  · exact others 1 (by decide)
  · rw [(cycles word).2]

end Machine

end Chip8
