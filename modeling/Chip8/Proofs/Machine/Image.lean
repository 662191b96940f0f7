import Chip8.Proofs.Machine.Cycle
import Chip8.Proofs.Machine.Loading

/-! # The image of a loaded program

A program is loaded completely or not at all. The one check on its length comes before anything is
written, and it leaves room for neither of the two blocks to fail: a program that fits may end at
the very last address, but not behind it, and none reaches the font.
-/

namespace Chip8

namespace Memory

variable {memory : Memory} {program : List UInt8}

/-- The second memory is the first one with the font and a program in their places. -/
structure LoadedWith (memory : Memory) (program : List UInt8) (image : Memory) : Prop where
  size : image.size = memory.size
  glyphs : ∀ offset (inside : offset < Layout.font.length),
    image.byteAt (0x50 + offset) = Layout.font[offset]
  code : ∀ offset (inside : offset < program.length),
    image.byteAt (0x200 + offset) = program[offset]
  outside : ∀ location : Int, 0 ≤ location → ¬ (0x50 ≤ location ∧ location ≤ 0x9f) →
    ¬ (0x200 ≤ location ∧ location < 0x200 + program.length) →
    image.byteAt location = memory.byteAt location

/-- The program lies behind the font, so it may be placed after the font and leave it whole. -/
theorem loadedWith_place (whole : memory.size = 0x1000) (short : program.length ≤ 0xe00) :
    memory.LoadedWith program
      ((memory.place Layout.fontStart Layout.font).place Layout.programStart program) := by
  have glyphs : Layout.font.length = 80 := rfl
  have fontRoom : (0x50 : Int) + Layout.font.length ≤ memory.size := by
    rw [whole, glyphs]
    decide
  have programRoom : (0x200 : Int) + program.length ≤ (memory.place 0x50 Layout.font).size := by
    rw [size_place, whole]
    omega
  rw [Layout.fontStart, Layout.programStart]
  constructor
  · rw [size_place, size_place]
  · intro offset inside
    rw [byteAt_place_of_outside (by decide) programRoom (by omega) (by omega)]
    exact byteAt_place_inside (by decide) fontRoom inside
  · intro offset inside
    exact byteAt_place_inside (by decide) programRoom inside
  · intro location known offFont offProgram
    rw [byteAt_place_of_outside (by decide) programRoom known (by omega)]
    exact byteAt_place_of_outside (by decide) fontRoom known (by omega)

end Memory

namespace Machine

variable {machine : Machine}

/-- At an address inside the memory only the second byte of a word can wrap around. -/
theorem fetch_inside (whole : machine.memory.size = 0x1000) (bounds : 0 ≤ machine.pc ∧
    machine.pc ≤ 0xfff) :
    fetch machine =
      .ok (256 * (machine.memory.byteAt machine.pc).toNat +
        (machine.memory.byteAt ((machine.pc + 1) % 0x1000)).toNat) machine := by
  have first : Layout.wrap machine.pc = machine.pc := by
    simp only [Layout.wrap]
    omega
  rw [fetch_eq whole, nextWord, Memory.wordAt, first, Int.mul_comm 256]
  rfl

theorem Valid.load_fails_iff (valid : machine.Valid) {program : List UInt8} :
    (∃ fault left, load program machine = .error fault left) ↔ 0xe00 < program.length := by
  constructor
  · rintro ⟨fault, left, fails⟩
    apply Nat.lt_of_not_le
    intro short
    rw [valid.load_short short] at fails
    cases fails
  · intro long
    exact ⟨_, _, valid.load_long long⟩

/-- Loading fails on the programs that are too long and on no others, and then it changes nothing.
Otherwise it puts the font and the program where they belong and changes nothing else, and every
word of the image can be fetched. -/
theorem load_exact (valid : machine.Valid) (program : List UInt8) :
    ((∃ fault left, load program machine = .error fault left) ↔ 0xe00 < program.length) ∧
    (0xe00 < program.length →
      load program machine = .error (.programTooLong program.length 0xe00) machine) ∧
    (program.length ≤ 0xe00 →
      ∃ image, load program machine = .ok () (machine.withMemory image) ∧
        machine.memory.LoadedWith program image ∧
        ∀ address : Int, 0 ≤ address → address ≤ 0xfff →
          fetch { machine with memory := image, pc := address } =
            .ok (256 * (image.byteAt address).toNat +
                (image.byteAt ((address + 1) % 0x1000)).toNat)
              { machine with memory := image, pc := address }) := by
  refine ⟨valid.load_fails_iff, valid.load_long, ?_⟩
  intro short
  have loaded := Memory.loadedWith_place valid.memory short
  refine ⟨_, valid.load_short short, loaded, ?_⟩
  intro address least most
  apply fetch_inside
  · exact loaded.size.trans valid.memory
  · exact ⟨least, most⟩

/-- A machine in the middle of something, whose last byte will be the first of a word. -/
def busy : Machine :=
  { unpowered {} false {} with
    memory := (Memory.zeros Layout.memorySize).place 0 [0x34, 0x56]
    registers := Vector.replicate 16 7
    index := 0x9f
    pc := 0xfff }

theorem valid_busy : busy.Valid :=
  { valid_unpowered {} false {} with
    memory := by rw [busy, Memory.size_place, Memory.size_zeros]; rfl
    index := by decide
    pc := by decide }

/-- The longest program that fits ends at the last address, and one byte more is too much. -/
theorem load_exact_busy :
    busy.Valid ∧
      load (List.replicate 0xe01 0x12) busy = .error (.programTooLong 0xe01 0xe00) busy ∧
      ∃ image, load (List.replicate 0xe00 0x12) busy = .ok () (busy.withMemory image) ∧
        fetch { busy with memory := image, pc := 0xfff } =
          .ok 0x1234 { busy with memory := image, pc := 0xfff } := by
  have kept : busy.memory.byteAt 0 = 0x34 := by decide +kernel
  obtain ⟨-, refuses, -⟩ := load_exact valid_busy (List.replicate 0xe01 0x12)
  obtain ⟨-, -, loads⟩ := load_exact valid_busy (List.replicate 0xe00 0x12)
  rw [List.length_replicate] at refuses loads
  obtain ⟨image, succeeds, placed, fetches⟩ := loads (Nat.le_refl 0xe00)
  have last : image.byteAt 0xfff = 0x12 := by
    have inside : 0xdff < (List.replicate 0xe00 (0x12 : UInt8)).length := by
      rw [List.length_replicate]
      decide
    exact (placed.code 0xdff inside).trans (List.getElem_replicate _)
  have first : image.byteAt 0 = 0x34 := by
    rw [← kept]
    apply placed.outside
    · decide
    · decide
    · omega
  refine ⟨valid_busy, refuses (by decide), image, succeeds, ?_⟩
  refine (fetches 0xfff (by decide) (by decide)).trans ?_
  have wraps : ((0xfff : Int) + 1) % 0x1000 = 0 := by decide
  rw [wraps, last, first]
  rfl

end Machine

end Chip8
