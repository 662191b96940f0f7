import Chip8.Proofs.Instruction.Encoding
import Chip8.Proofs.Machine.Cycle
import Chip8.Proofs.Machine.Loading

/-! # How cycles fail

A cycle of a valid machine fails for three reasons only: the word encodes no instruction, a
subroutine returns without having been called, or calls are nested too deeply. Whatever the
reason, the machine has then fetched the word and done nothing more.
-/

namespace Chip8.Machine

variable {machine : Machine}

theorem nextWord_bounds (machine : Machine) :
    0 ≤ machine.nextWord ∧ machine.nextWord < 0x10000 := by
  have bounds := machine.memory.wordAt_bounds machine.pc
  rw [nextWord]
  omega

theorem decode?_nextWord_iff {instruction : Instruction} :
    Instruction.decode? machine.nextWord = some instruction ↔
      instruction.encode = machine.nextWord :=
  Instruction.decode?_eq_some_iff machine.nextWord_bounds.1 machine.nextWord_bounds.2

/-- The words that encode no instruction are those of no form. -/
theorem decode?_nextWord_eq_none_iff :
    Instruction.decode? machine.nextWord = none ↔
      ∀ form ∈ Instruction.forms, ¬ form.Fits machine.nextWord := by
  rw [← Option.not_isSome_iff_eq_none,
    Instruction.isSome_decode?_iff machine.nextWord_bounds.1 machine.nextWord_bounds.2]
  constructor
  · intro unfit form member fits
    exact unfit ⟨form, member, fits⟩
  · rintro unfit ⟨form, member, fits⟩
    exact unfit form member fits

theorem exists_encode_of_fits {form : Instruction.Form} (member : form ∈ Instruction.forms)
    (fits : form.Fits machine.nextWord) :
    ∃ instruction : Instruction, instruction.encode = machine.nextWord := by
  obtain ⟨instruction, decoded⟩ :=
    Option.isSome_iff_exists.mp (Instruction.isSome_decode?_of_fits member fits)
  exact ⟨instruction, decode?_nextWord_iff.mp decoded⟩

theorem decode?_eq_call_iff :
    (∃ address, Instruction.decode? machine.nextWord = some (.call address)) ↔
      machine.nextWord / 0x1000 = 2 := by
  constructor
  · rintro ⟨address, decoded⟩
    rw [← decode?_nextWord_iff.mp decoded]
    exact Word.family_ofAddress 2 address
  · intro family
    exact ⟨Word.address machine.nextWord, decode?_nextWord_iff.mpr (Word.ofAddress_eq family)⟩

theorem decode?_eq_ret_iff :
    Instruction.decode? machine.nextWord = some .ret ↔ machine.nextWord = 0x00ee := by
  rw [decode?_nextWord_iff]
  exact eq_comm

theorem refusal_eq_some_iff {instruction : Instruction} {fault : Fault} :
    machine.refusal instruction = some fault ↔
      (instruction = .ret ∧ machine.stack.entries = [] ∧ fault = .returning .underflow) ∨
      ((∃ address, instruction = .call address) ∧
        machine.stack.capacity ≤ machine.stack.depth ∧
          fault = .calling (.overflow machine.stack.capacity)) := by
  cases instruction <;> simp only [refusal, reduceCtorEq, false_and, exists_false, or_self]
  case ret =>
    cases popped : machine.stack.pop with
    | ok result =>
      have entries := (CallStack.pop_eq_ok_iff.mp popped).1
      simp [entries]
    | error fault =>
      obtain ⟨empty, rfl⟩ := CallStack.pop_eq_error_iff.mp popped
      simp [empty, eq_comm]
  case call address =>
    cases pushed : machine.stack.push machine.pc with
    | ok stack =>
      have room := (CallStack.push_eq_ok_iff.mp pushed).1
      simp [room]
    | error fault =>
      obtain ⟨full, rfl⟩ := CallStack.push_eq_error_iff.mp pushed
      simp [full, eq_comm]

/-- The faults of a cycle and their causes. -/
theorem Valid.fault_eq_some_iff (valid : machine.Valid) {fault : Fault} :
    machine.cycle.fault = some fault ↔
      (Instruction.decode? machine.nextWord = none ∧ fault = .unsupported) ∨
      (machine.nextWord = 0x00ee ∧ machine.stack.entries = [] ∧
        fault = .returning .underflow) ∨
      (machine.nextWord / 0x1000 = 2 ∧ 16 ≤ machine.stack.depth ∧
        fault = .calling (.overflow 16)) := by
  rw [← decode?_eq_call_iff, ← decode?_eq_ret_iff]
  cases decoded : Instruction.decode? machine.nextWord with
  | none =>
    rw [valid.cycle_undecoded decoded]
    simp [eq_comm]
  | some instruction =>
    have capacity : machine.fetched.stack.capacity = 16 := valid.capacity
    have full : (16 : Int) ≤ machine.fetched.stack.depth ↔ 16 ≤ machine.stack.depth :=
      Int.ofNat_le
    rw [valid.cycle_decoded decoded, refusal_eq_some_iff, capacity, full]
    simp only [Option.some.injEq, reduceCtorEq, false_and, false_or]
    exact Iff.rfl

/-- A cycle that fails has fetched its word and moved past it. -/
theorem Valid.machine_of_fault (valid : machine.Valid) (failed : machine.cycle.fault ≠ none) :
    machine.cycle.machine = machine.fetched := by
  cases decoded : Instruction.decode? machine.nextWord with
  | none => rw [valid.cycle_undecoded decoded]
  | some instruction =>
    rw [valid.cycle_decoded decoded] at failed ⊢
    obtain ⟨fault, refused⟩ := Option.ne_none_iff_exists'.mp failed
    exact effect_refused refused

/-- The word at the program counter and the call stack decide whether a cycle fails, and how. A
cycle that fails changes nothing but what fetching changes. -/
theorem cycle_fails_exactly (valid : machine.Valid) :
    (machine.cycle.fault = some .unsupported ↔
      ∀ form ∈ Instruction.forms, ¬ form.Fits machine.nextWord) ∧
    (machine.cycle.fault = some (.returning .underflow) ↔
      machine.nextWord = 0x00ee ∧ machine.stack.depth = 0) ∧
    (machine.cycle.fault = some (.calling (.overflow 16)) ↔
      machine.nextWord / 0x1000 = 2 ∧ machine.stack.depth = 16) ∧
    (∀ fault, machine.cycle.fault = some fault →
      fault = .unsupported ∨ fault = .returning .underflow ∨ fault = .calling (.overflow 16)) ∧
    (machine.cycle.fault ≠ none →
      machine.cycle.machine =
        { machine with
          origin := machine.pc
          word := machine.nextWord
          pc := Layout.wrap (machine.pc + 2) }) := by
  have depth := valid.depth
  refine ⟨?_, ?_, ?_, ?_, valid.machine_of_fault⟩
  · have encoded := Instruction.isSome_decode?_iff machine.nextWord_bounds.1
      machine.nextWord_bounds.2
    rw [valid.fault_eq_some_iff, ← Option.not_isSome_iff_eq_none, encoded]
    simp
  · rw [valid.fault_eq_some_iff, CallStack.depth, List.length_eq_zero_iff]
    simp
  · have full : 16 ≤ machine.stack.depth ↔ machine.stack.depth = 16 := by omega
    rw [valid.fault_eq_some_iff, full]
    simp
  · intro fault failed
    rcases valid.fault_eq_some_iff.mp failed with ⟨-, same⟩ | ⟨-, -, same⟩ | ⟨-, -, same⟩
    · exact .inl same
    · exact .inr (.inl same)
    · exact .inr (.inr same)

/-- A machine that is sixteen calls deep and about to call once more, by a word whose second byte
is the first of the memory. -/
def deepCaller : Machine :=
  { unpowered {} false {} with
    memory := (Memory.zeros Layout.memorySize).put 0xfff 0x23
    stack := { entries := List.replicate 16 0x300 }
    pc := 0xfff }

theorem valid_deepCaller : deepCaller.Valid :=
  { valid_unpowered {} false {} with
    memory := by rw [deepCaller, Memory.size_put, Memory.size_zeros]; rfl
    pc := by decide
    depth := Nat.le_refl 16
    entries := by decide }

theorem nextWord_deepCaller : deepCaller.nextWord = 0x2300 := by decide +kernel

theorem cycle_fails_deepCaller :
    deepCaller.Valid ∧ deepCaller.cycle.fault = some (.calling (.overflow 16)) ∧
      deepCaller.cycle.machine =
        { deepCaller with origin := 0xfff, word := 0x2300, pc := 1 } := by
  obtain ⟨-, -, overflows, -, unchanged⟩ := cycle_fails_exactly valid_deepCaller
  have failed : deepCaller.cycle.fault = some (.calling (.overflow 16)) := by
    rw [overflows, nextWord_deepCaller]
    decide
  refine ⟨valid_deepCaller, failed, ?_⟩
  rw [unchanged (by rw [failed]; simp), nextWord_deepCaller]
  rfl

end Chip8.Machine
