import Chip8.Proofs.Machine.KeyWait
import Chip8.Proofs.Machine.Subroutines

/-! # Where control goes

The word of a cycle, with the registers, the keys and the stack as the cycle finds them, decides
where the next cycle goes on. That is behind the word, unless the word jumps, calls, returns,
skips or waits for a key in vain.
-/

namespace Chip8.Machine

variable {machine : Machine}

/-- A word skips the next one: it is a skip, and its condition holds of the registers and keys. -/
def Skips (machine : Machine) (word : Int) : Prop :=
  let x := machine.registers.get (Word.x word)
  let y := machine.registers.get (Word.y word)
  (word / 0x1000 = 0x3 ∧ x = Word.byte word) ∨ -- 3xkk
  (word / 0x1000 = 0x4 ∧ x ≠ Word.byte word) ∨ -- 4xkk
  (word / 0x1000 = 0x5 ∧ word % 16 = 0 ∧ x = y) ∨ -- 5xy0
  (word / 0x1000 = 0x9 ∧ word % 16 = 0 ∧ x ≠ y) ∨ -- 9xy0
  (word / 0x1000 = 0xe ∧ word % 0x100 = 0x9e ∧ machine.keypad.isDown x.toNat = true) ∨ -- Ex9E
  (word / 0x1000 = 0xe ∧ word % 0x100 = 0xa1 ∧ machine.keypad.isDown x.toNat = false) -- ExA1

/-! ### Instructions -/

/-- The condition of an instruction that skips. No other instruction ever skips. -/
def skipCondition (machine : Machine) : Instruction → Bool
  | .skipIfByte x byte => machine.registers.get x == byte
  | .skipUnlessByte x byte => machine.registers.get x != byte
  | .skipIfEqual x y => machine.registers.get x == machine.registers.get y
  | .skipUnlessEqual x y => machine.registers.get x != machine.registers.get y
  | .skipIfKey x => machine.keypad.isDown (machine.registers.get x).toNat == true
  | .skipUnlessKey x => machine.keypad.isDown (machine.registers.get x).toNat == false
  | _ => false

/-- Instructions that set the program counter or move it back. -/
def Transfers : Instruction → Prop
  | .jump _ | .call _ | .ret | .jumpOffset _ | .awaitKey _ => True
  | _ => False

theorem skips_encode_iff (machine : Machine) (instruction : Instruction) :
    machine.Skips instruction.encode ↔ machine.skipCondition instruction = true := by
  cases instruction <;> simp [Skips, skipCondition, Instruction.encode]

theorem not_transfers_of_skipCondition {instruction : Instruction}
    (holds : machine.skipCondition instruction = true) : ¬ Transfers instruction := by
  intro transfers
  cases instruction <;> first | exact transfers | cases holds

/-- An instruction that leaves the program counter to others moves it only by skipping. -/
theorem pc_effect (machine : Machine) {instruction : Instruction}
    (sequential : ¬ Transfers instruction) :
    (machine.effect instruction).pc =
      if machine.skipCondition instruction then Layout.wrap (machine.pc + 2) else machine.pc := by
  cases instruction
  case jump | call | ret | jumpOffset | awaitKey => exact absurd trivial sequential
  all_goals rfl

theorem origin_word_effect (machine : Machine) (instruction : Instruction) :
    (machine.effect instruction).origin = machine.origin ∧
      (machine.effect instruction).word = machine.word := by
  cases instruction
  case ret => rw [effect]; split <;> exact ⟨rfl, rfl⟩
  case call => rw [effect]; split <;> exact ⟨rfl, rfl⟩
  case awaitKey => rw [effect, keyAwaited]; split <;> exact ⟨rfl, rfl⟩
  all_goals exact ⟨rfl, rfl⟩

/-! ### Cycles -/

theorem wrap_add_twice (address : Int) :
    Layout.wrap (Layout.wrap (address + 2) + 2) = Layout.wrap (address + 4) := by
  simp only [Layout.wrap]
  omega

theorem Valid.exists_decoded (valid : machine.Valid) (succeeded : machine.cycle.fault = none) :
    ∃ instruction, Instruction.decode? machine.nextWord = some instruction := by
  cases decoded : Instruction.decode? machine.nextWord with
  | none =>
    rw [valid.cycle_undecoded decoded] at succeeded
    cases succeeded
  | some instruction => exact ⟨instruction, rfl⟩

/-- A cycle whose instruction leaves the program counter to others goes on behind its word, or
behind the word after it. -/
theorem Valid.pc_sequential (valid : machine.Valid) {instruction : Instruction}
    (decoded : Instruction.decode? machine.nextWord = some instruction)
    (sequential : ¬ Transfers instruction) :
    machine.cycle.machine.pc =
      if machine.skipCondition instruction then Layout.wrap (machine.pc + 4)
      else Layout.wrap (machine.pc + 2) := by
  rw [valid.cycle_decoded decoded, pc_effect machine.fetched sequential]
  -- Fetching changes neither registers nor keys, which conditions are about.
  have same : machine.fetched.skipCondition instruction = machine.skipCondition instruction := by
    cases instruction <;> rfl
  rw [same, ← wrap_add_twice]
  rfl

theorem Valid.pc_jump (valid : machine.Valid) (jumps : machine.nextWord / 0x1000 = 0x1) :
    machine.cycle.machine.pc = machine.nextWord % 0x1000 := by
  have encoded : Instruction.encode (.jump (Word.address machine.nextWord)) = machine.nextWord :=
    Word.ofAddress_eq jumps
  rw [valid.cycle_decoded (decode?_nextWord_iff.mpr encoded)]
  exact Word.val_address machine.nextWord

theorem Valid.pc_call (valid : machine.Valid) (calls : machine.nextWord / 0x1000 = 0x2)
    (succeeded : machine.cycle.fault = none) :
    machine.cycle.machine.pc = machine.nextWord % 0x1000 := by
  have encoded : Instruction.encode (.call (Word.address machine.nextWord)) = machine.nextWord :=
    Word.ofAddress_eq calls
  rw [valid.cycle_decoded (decode?_nextWord_iff.mpr encoded)] at succeeded ⊢
  rw [Machine.effect]
  cases pushed : machine.fetched.stack.push machine.fetched.pc with
  | ok stack => exact Word.val_address machine.nextWord
  | error fault => simp [refusal, pushed] at succeeded

theorem Valid.pc_jumpOffset (valid : machine.Valid) (jumps : machine.nextWord / 0x1000 = 0xb) :
    machine.cycle.machine.pc =
      Layout.wrap ((machine.registers.get offsetRegister).toNat + machine.nextWord % 0x1000) := by
  have encoded :
      Instruction.encode (.jumpOffset (Word.address machine.nextWord)) = machine.nextWord :=
    Word.ofAddress_eq jumps
  rw [valid.cycle_decoded (decode?_nextWord_iff.mpr encoded), ← Word.val_address]
  rfl

theorem Valid.pc_ret (valid : machine.Valid) (returns : machine.nextWord = 0x00ee)
    (succeeded : machine.cycle.fault = none) :
    machine.stack.entries.head? = some machine.cycle.machine.pc := by
  cases entries : machine.stack.entries with
  | nil =>
    have failed := valid.fault_eq_some_iff.mpr (.inr (.inl ⟨returns, entries, rfl⟩))
    rw [succeeded] at failed
    cases failed
  | cons entry rest =>
    rw [(valid.cycle_ret returns entries).2.1]
    rfl

/-- A key wait that is not in vain goes on behind its word. -/
theorem Valid.pc_awaitKey (valid : machine.Valid) (wait : IsKeyWait machine.nextWord)
    (down : ¬ machine.WaitsInVain) :
    machine.cycle.machine.pc = Layout.wrap (machine.pc + 2) := by
  cases first : machine.keypad.firstDown with
  | none => exact absurd ⟨wait, Keypad.firstDown_eq_none_iff.mp first⟩ down
  | some key => rw [(valid.cycle_key wait first).2]

theorem Valid.pc_onward (valid : machine.Valid) {instruction : Instruction}
    (decoded : Instruction.decode? machine.nextWord = some instruction)
    (address : ¬ (machine.nextWord / 0x1000 = 0x1 ∨ machine.nextWord / 0x1000 = 0x2))
    (ret : machine.nextWord ≠ 0x00ee) (offset : machine.nextWord / 0x1000 ≠ 0xb)
    (wait : ¬ machine.WaitsInVain) (skip : ¬ machine.Skips machine.nextWord) :
    machine.cycle.machine.pc = Layout.wrap (machine.pc + 2) := by
  have encoded := decode?_nextWord_iff.mp decoded
  by_cases transfers : Transfers instruction
  · rw [← encoded] at address ret offset
    cases instruction
    case jump target => exact absurd (.inl (Word.family_ofAddress 0x1 target)) address
    case call target => exact absurd (.inr (Word.family_ofAddress 0x2 target)) address
    case ret => exact absurd rfl ret
    case jumpOffset target => exact absurd (Word.family_ofAddress 0xb target) offset
    case awaitKey x => exact valid.pc_awaitKey (decode?_eq_awaitKey_iff.mp decoded).1 wait
    all_goals cases transfers
  · rw [← encoded, skips_encode_iff] at skip
    rw [valid.pc_sequential decoded transfers, if_neg skip]

/-- The program counter after a cycle that succeeds, by the word that the cycle fetched. -/
theorem pc_after_cycle (valid : machine.Valid) (succeeded : machine.cycle.fault = none) :
    let word := machine.nextWord
    let after := machine.cycle.machine
    (word / 0x1000 = 0x1 ∨ word / 0x1000 = 0x2 → after.pc = word % 0x1000) ∧
    (word = 0x00ee → machine.stack.entries.head? = some after.pc) ∧
    (word / 0x1000 = 0xb →
      after.pc =
        Layout.wrap ((machine.registers.get offsetRegister).toNat + word % 0x1000)) ∧
    (machine.WaitsInVain → after.pc = machine.pc) ∧
    (machine.Skips word → after.pc = Layout.wrap (machine.pc + 4)) ∧
    (¬ (word / 0x1000 = 0x1 ∨ word / 0x1000 = 0x2) → word ≠ 0x00ee → word / 0x1000 ≠ 0xb →
      ¬ machine.WaitsInVain → ¬ machine.Skips word →
      after.pc = Layout.wrap (machine.pc + 2)) ∧
    after.origin = machine.pc ∧ after.word = word := by
  intro word after
  obtain ⟨instruction, decoded⟩ := valid.exists_decoded succeeded
  have encoded : instruction.encode = word := decode?_nextWord_iff.mp decoded
  refine ⟨?_, ?_, valid.pc_jumpOffset, ?_, ?_, ?_, ?_⟩
  · rintro (jumps | calls)
    · exact valid.pc_jump jumps
    · exact valid.pc_call calls succeeded
  · intro returns
    exact valid.pc_ret returns succeeded
  · intro vain
    simp only [after, (valid.cycle_in_vain vain).2]
  · intro skips
    have holds : machine.skipCondition instruction = true := by
      rw [← skips_encode_iff, encoded]
      exact skips
    simp only [after, valid.pc_sequential decoded (not_transfers_of_skipCondition holds), holds,
      ↓reduceIte]
  · exact valid.pc_onward decoded
  · simp only [after, valid.cycle_decoded decoded, origin_word_effect]
    exact ⟨rfl, rfl⟩

/-- A machine about to skip by a key that a register names, by a word at the last address whose
second byte is the first of the memory. -/
def edgeSkipper : Machine :=
  { unpowered {} false {} with
    memory := ((Memory.zeros Layout.memorySize).put 0xfff 0xe1).put 0 0x9e
    keypad := Keypad.ofMask 0x8000
    registers := Vector.replicate 16 0x1f
    pc := 0xfff }

theorem valid_edgeSkipper : edgeSkipper.Valid :=
  { valid_unpowered {} false {} with
    memory := by rw [edgeSkipper, Memory.size_put, Memory.size_put, Memory.size_zeros]; rfl
    pc := by decide }

theorem pc_after_cycle_edgeSkipper :
    edgeSkipper.Valid ∧ edgeSkipper.cycle.fault = none ∧
      edgeSkipper.cycle.machine.pc = 3 ∧ edgeSkipper.cycle.machine.origin = 0xfff ∧
      edgeSkipper.cycle.machine.word = 0xe19e := by
  obtain ⟨word, succeeded, down⟩ : edgeSkipper.nextWord = 0xe19e ∧
      edgeSkipper.cycle.fault = none ∧
      edgeSkipper.keypad.isDown (edgeSkipper.registers.get (Word.x 0xe19e)).toNat = true := by
    decide +kernel
  obtain ⟨-, -, -, -, skip, -, origin, fetched⟩ := pc_after_cycle valid_edgeSkipper succeeded
  rw [word] at skip fetched
  have skips : edgeSkipper.Skips 0xe19e :=
    .inr (.inr (.inr (.inr (.inl ⟨by decide, by decide, down⟩))))
  exact ⟨valid_edgeSkipper, succeeded, skip skips, origin, fetched⟩

end Chip8.Machine
