import Chip8.Machine.Cycle
import Chip8.Proofs.Machine.Effect

/-! # Cycles of valid machines

Fetching never fails on a valid machine. So a cycle leaves the machine that it fetched a word
with, changed by the effect of the word's instruction if the word has one, and that machine is
valid again.
-/

namespace Chip8

/-- The word at an address, most significant byte first. The addresses of both bytes wrap around. -/
def Memory.wordAt (memory : Memory) (address : Int) : Int :=
  (memory.byteAt (Layout.wrap address)).toNat * 256 +
    (memory.byteAt (Layout.wrap (address + 1))).toNat

theorem Memory.wordAt_bounds (memory : Memory) (address : Int) :
    0 ≤ memory.wordAt address ∧ memory.wordAt address ≤ 0xffff := by
  have high := (memory.byteAt (Layout.wrap address)).toNat_lt
  have low := (memory.byteAt (Layout.wrap (address + 1))).toNat_lt
  simp only [wordAt]
  omega

theorem Layout.wrap_bounds (address : Int) : 0 ≤ wrap address ∧ wrap address ≤ 0xfff := by
  simp only [wrap]
  omega

namespace Machine

variable {machine : Machine}

/-- The word that the next cycle fetches. -/
def nextWord (machine : Machine) : Int := machine.memory.wordAt machine.pc

/-- The machine that has fetched the next word and moved past it. -/
def fetched (machine : Machine) : Machine :=
  { machine with
    origin := machine.pc
    word := machine.nextWord
    pc := Layout.wrap (machine.pc + 2) }

theorem fetch_eq (whole : machine.memory.size = 0x1000) :
    fetch machine = .ok machine.nextWord machine := by
  rw [fetch, bind_ok (get_eq machine), bind_ok (readByte_wrap whole _),
    bind_ok (readByte_wrap whole _)]
  rfl

theorem fetchNext_eq (whole : machine.memory.size = 0x1000) :
    fetchNext machine = .ok () machine.fetched := by
  have fetches : fetch { machine with origin := machine.pc } =
      .ok machine.nextWord { machine with origin := machine.pc } := fetch_eq whole
  rw [fetchNext, bind_ok (modify_eq _ machine), bind_ok fetches]
  rfl

/-! ### Validity is kept -/

theorem Valid.fetched (valid : machine.Valid) : machine.fetched.Valid :=
  { valid with
    origin := valid.pc
    word := Memory.wordAt_bounds _ _
    pc := Layout.wrap_bounds _ }

theorem Valid.skipIf (valid : machine.Valid) (condition : Bool) :
    (machine.skipIf condition).Valid := by
  refine { valid with pc := ?_ }
  cases condition
  · exact valid.pc
  · exact Layout.wrap_bounds _

theorem Valid.drawn (valid : machine.Valid) (x y : Register) (height : Nat) :
    (machine.drawn x y height).Valid :=
  { valid with
    width := (Framebuffer.width_flips _ _).trans valid.width
    height := (Framebuffer.height_flips _ _).trans valid.height
    cells := (Framebuffer.size_flips _ _).trans valid.cells
    binary := valid.binary.flips _ }

theorem Valid.keyAwaited (valid : machine.Valid) (x : Register) : (machine.keyAwaited x).Valid := by
  rw [Machine.keyAwaited]
  cases machine.keypad.firstDown with
  | none => exact { valid with pc := Layout.wrap_bounds _ }
  | some key => exact { valid with }

theorem Valid.returned (valid : machine.Valid) {entry : Int} {stack : CallStack}
    (popped : machine.stack.pop = .ok (entry, stack)) :
    { machine with stack, pc := entry }.Valid := by
  obtain ⟨entries, capacity⟩ := CallStack.pop_eq_ok_iff.mp popped
  have depth := valid.depth
  have inside := valid.entries
  rw [CallStack.depth, entries, List.length_cons] at depth
  rw [entries, List.forall_mem_cons] at inside
  exact { valid with
    pc := inside.1
    capacity := capacity.trans valid.capacity
    depth := Nat.le_of_succ_le depth
    entries := inside.2 }

theorem Valid.called (valid : machine.Valid) {stack : CallStack} {target : Int}
    (pushed : machine.stack.push machine.pc = .ok stack)
    (bounds : 0 ≤ target ∧ target ≤ 0xfff) : { machine with stack, pc := target }.Valid := by
  obtain ⟨room, rfl⟩ := CallStack.push_eq_ok_iff.mp pushed
  rw [valid.capacity] at room
  exact { valid with
    pc := bounds
    depth := Int.ofNat_lt.mp room
    entries := List.forall_mem_cons.mpr ⟨valid.pc, valid.entries⟩ }

theorem byte_bounds (byte : UInt8) : 0 ≤ (byte.toNat : Int) ∧ (byte.toNat : Int) ≤ 0xff := by
  have bound := byte.toNat_lt
  omega

theorem address_bounds (address : Address) :
    0 ≤ (address.val : Int) ∧ (address.val : Int) ≤ 0xfff := by
  have bound := address.isLt
  omega

/-- Whatever an instruction does to a valid machine leaves it valid. -/
theorem Valid.effect (valid : machine.Valid) (instruction : Instruction) :
    (machine.effect instruction).Valid := by
  cases instruction
  case clearScreen =>
    exact { valid with
      cells := (Memory.size_clear _).trans valid.cells
      binary := Framebuffer.binary_clear _ }
  case ret =>
    rw [Machine.effect]
    cases popped : machine.stack.pop with
    | ok result => exact valid.returned popped
    | error fault => exact valid
  case call address =>
    rw [Machine.effect]
    cases pushed : machine.stack.push machine.pc with
    | ok stack => exact valid.called pushed (address_bounds address)
    | error fault => exact valid
  case jump address => exact { valid with pc := address_bounds address }
  case jumpOffset => exact { valid with pc := Layout.wrap_bounds _ }
  case loadIndex address => exact { valid with index := address_bounds address }
  case addIndex => exact { valid with index := Layout.wrap_bounds _ }
  case loadGlyph x =>
    refine { valid with index := ?_ }
    simp only [Machine.effect, Layout.fontStart, Layout.glyphSize]
    omega
  case skipIfByte | skipUnlessByte | skipIfEqual | skipUnlessEqual => exact valid.skipIf _
  case skipIfKey | skipUnlessKey => exact { valid.skipIf _ with }
  case draw => exact valid.drawn _ _ _
  case awaitKey x => exact valid.keyAwaited x
  case setDelay => exact { valid with delay := byte_bounds _ }
  case setSound => exact { valid with sound := byte_bounds _ }
  case storeDecimal | storeRegisters =>
    exact { valid with memory := (Memory.size_store _ _ _).trans valid.memory }
  all_goals exact { valid with }

/-! ### What a cycle leaves -/

theorem effect_refused {instruction : Instruction} {fault : Fault}
    (refused : machine.refusal instruction = some fault) : machine.effect instruction = machine := by
  cases instruction <;> simp only [refusal, reduceCtorEq] at refused
  case ret =>
    split at refused
    · cases refused
    · next popped => simp only [effect, popped]
  case call =>
    split at refused
    · cases refused
    · next pushed => simp only [effect, pushed]

@[simp] theorem fetched_word (machine : Machine) : machine.fetched.word = machine.nextWord := rfl

/-- A word that encodes no instruction stops the cycle once it is fetched. -/
theorem Valid.cycle_undecoded (valid : machine.Valid)
    (undecoded : Instruction.decode? machine.nextWord = none) :
    machine.cycle = { machine := machine.fetched, fault := some .unsupported } := by
  simp only [cycle, fetchNext_eq valid.memory, dispatch, fetched_word, undecoded]

/-- An instruction is traced as it finds the machine, and then refused or carried out. -/
theorem Valid.cycle_decoded (valid : machine.Valid) {instruction : Instruction}
    (decoded : Instruction.decode? machine.nextWord = some instruction) :
    machine.cycle =
      { machine := machine.fetched.effect instruction
        traces := machine.fetched.traceLines instruction
        fault := machine.fetched.refusal instruction } := by
  simp only [cycle, fetchNext_eq valid.memory, dispatch, fetched_word, decoded, outcome]
  cases refused : machine.fetched.refusal instruction with
  | none => rw [valid.fetched.execute_eq refused]
  | some fault => rw [execute_refused refused, effect_refused refused]

theorem Valid.cycle (valid : machine.Valid) : machine.cycle.machine.Valid := by
  cases decoded : Instruction.decode? machine.nextWord with
  | none =>
    rw [valid.cycle_undecoded decoded]
    exact valid.fetched
  | some instruction =>
    rw [valid.cycle_decoded decoded]
    exact valid.fetched.effect instruction

end Machine

end Chip8
