import Chip8.Proofs.Machine.Straight

/-! # Arithmetic with a flag

Five instructions leave a result in a register and then a flag in the flag register. Both are
computed from two registers as the instruction finds them, so it does not matter which of the three
registers are the same, except that a result in the flag register gives way to the flag.
-/

namespace Chip8

section Bytes

variable (a b : UInt8)

theorem toInt_byte_add : ((a + b).toNat : Int) = (a.toNat + b.toNat : Int) % 256 := by
  rw [UInt8.toNat_add]
  omega

theorem toInt_byte_sub : ((a - b).toNat : Int) = (a.toNat - b.toNat : Int) % 256 := by
  have bound := b.toNat_lt
  rw [UInt8.toNat_sub]
  omega

end Bytes

namespace Machine

variable {machine : Machine}

/-- An instruction leaves a result in a register and then a flag in the flag register, and changes
nothing else. -/
def LeavesFlagged (machine : Machine) (instruction : Instruction) (x : Register)
    (result flag : Int) : Prop :=
  ∃ after, machine.Performs instruction after ∧
    after = { machine with registers := after.registers } ∧
    (after.registers.get flagRegister).toNat = flag ∧
    (x ≠ flagRegister → (after.registers.get x).toNat = result) ∧
    ∀ other, other ≠ x → other ≠ flagRegister →
      after.registers.get other = machine.registers.get other

theorem get_flagged (machine : Machine) (x other : Register) (byte : UInt8) (flag : Bool) :
    ((machine.withRegister x byte).withFlag flag).registers.get other =
      if other = flagRegister then if flag then 1 else 0
      else if other = x then byte else machine.registers.get other := by
  simp only [withFlag, withRegister, Registers.get_write]

theorem toInt_flag (flag : Bool) :
    ((if flag then 1 else 0 : UInt8).toNat : Int) = if flag then 1 else 0 := by
  cases flag <;> rfl

theorem Valid.leavesFlagged (valid : machine.Valid) (instruction : Instruction)
    (straight : Straight instruction) {x : Register} {byte : UInt8} {flag : Bool}
    (leaves : machine.effect instruction = (machine.withRegister x byte).withFlag flag)
    {result value : Int} (computed : byte.toNat = result)
    (told : (if flag then 1 else 0) = value) :
    machine.LeavesFlagged instruction x result value := by
  refine ⟨_, valid.performs straight, ?_, ?_, ?_, ?_⟩
  · rw [leaves]
    rfl
  · rw [leaves, get_flagged, if_pos rfl, toInt_flag, told]
  · intro apart
    rw [leaves, get_flagged, if_neg apart, if_pos rfl, computed]
  · intro other notResult notFlag
    rw [leaves, get_flagged, if_neg notFlag, if_neg notResult]

/-! ### Results and flags as numbers -/

section Figures

variable (valid : machine.Valid) (x y : Register)
include valid

theorem Valid.leavesFlagged_add :
    machine.LeavesFlagged (.add x y) x
      (((machine.registers.get x).toNat + (machine.registers.get y).toNat : Int) % 256)
      (if (255 : Int) < (machine.registers.get x).toNat + (machine.registers.get y).toNat then 1
        else 0) := by
  apply valid.leavesFlagged (.add x y) trivial rfl (toInt_byte_add _ _)
  apply if_congr _ rfl rfl
  rw [decide_eq_true_iff]
  omega

theorem Valid.leavesFlagged_subtract :
    machine.LeavesFlagged (.subtract x y) x
      (((machine.registers.get x).toNat - (machine.registers.get y).toNat : Int) % 256)
      (if ((machine.registers.get y).toNat : Int) ≤ (machine.registers.get x).toNat then 1
        else 0) := by
  apply valid.leavesFlagged (.subtract x y) trivial rfl (toInt_byte_sub _ _)
  apply if_congr _ rfl rfl
  rw [decide_eq_true_iff, UInt8.le_iff_toNat_le, Int.ofNat_le]

theorem Valid.leavesFlagged_subtractFrom :
    machine.LeavesFlagged (.subtractFrom x y) x
      (((machine.registers.get y).toNat - (machine.registers.get x).toNat : Int) % 256)
      (if ((machine.registers.get x).toNat : Int) ≤ (machine.registers.get y).toNat then 1
        else 0) := by
  apply valid.leavesFlagged (.subtractFrom x y) trivial rfl (toInt_byte_sub _ _)
  apply if_congr _ rfl rfl
  rw [decide_eq_true_iff, UInt8.le_iff_toNat_le, Int.ofNat_le]

theorem Valid.leavesFlagged_shiftRight :
    machine.LeavesFlagged (.shiftRight x y) x ((machine.shiftSource x y).toNat / 2)
      ((machine.shiftSource x y).toNat % 2) := by
  apply valid.leavesFlagged (.shiftRight x y) trivial rfl
  · rw [UInt8.toNat_div]
    rfl
  · simp only [beq_iff_eq, ← UInt8.toNat_inj, UInt8.toNat_mod, UInt8.reduceToNat]
    split <;> omega

theorem Valid.leavesFlagged_shiftLeft :
    machine.LeavesFlagged (.shiftLeft x y) x (2 * (machine.shiftSource x y).toNat % 256)
      ((machine.shiftSource x y).toNat / 128) := by
  have bound := (machine.shiftSource x y).toNat_lt
  apply valid.leavesFlagged (.shiftLeft x y) trivial rfl
  · rw [toInt_byte_add]
    omega
  · simp only [decide_eq_true_eq, UInt8.le_iff_toNat_le, UInt8.reduceToNat]
    split <;> omega

end Figures

theorem toInt_shiftSource (machine : Machine) (x y : Register) :
    ((machine.shiftSource x y).toNat : Int) =
      if machine.variant.shiftsCopy then ((machine.registers.get y).toNat : Int)
      else (machine.registers.get x).toNat := by
  rw [shiftSource]
  split <;> rfl

/-! ### Addition undone -/

/-- A subtraction that finds the registers as an addition left them restores the first summand. It
borrows exactly if the addition carried. -/
theorem Valid.add_undone (valid : machine.Valid) {x y : Register} (apart : x ≠ y)
    (result : x ≠ flagRegister) (operand : y ≠ flagRegister) :
    ∃ sum, machine.Performs (.add x y) sum ∧ sum.Valid ∧
      ∀ between : Machine, between.Valid → between.registers = sum.registers →
        ∃ back, between.Performs (.subtract x y) back ∧
          back.registers.get x = machine.registers.get x ∧
          ((back.registers.get flagRegister).toNat : Int) =
            1 - (sum.registers.get flagRegister).toNat := by
  obtain ⟨sum, adds, rest, carry, total, others⟩ := valid.leavesFlagged_add x y
  refine ⟨sum, adds, ?_, ?_⟩
  · rw [rest]
    exact valid.withRegisters sum.registers
  intro between validBetween same
  obtain ⟨back, subtracts, -, borrow, difference, -⟩ := validBetween.leavesFlagged_subtract x y
  have first := (machine.registers.get x).toNat_lt
  have second := (machine.registers.get y).toNat_lt
  have summand : between.registers.get y = machine.registers.get y := by
    rw [same, others y apart.symm operand]
  have summed := total result
  have restored := difference result
  rw [same] at summand
  rw [same, summand] at borrow restored
  refine ⟨back, subtracts, ?_, ?_⟩
  · apply UInt8.toNat_inj.mp
    omega
  · rw [borrow, carry]
    split <;> split <;> omega

/-- Five instructions leave the result and the flag of their arithmetic on the registers that they
find, on either variant and whatever their operands are. An addition is undone by a subtraction. -/
theorem arithmetic_flagged (valid : machine.Valid) (x y : Register) :
    let a : Int := (machine.registers.get x).toNat
    let b : Int := (machine.registers.get y).toNat
    let source := if machine.variant.shiftsCopy then b else a
    machine.LeavesFlagged (.add x y) x ((a + b) % 256) (if 255 < a + b then 1 else 0) ∧
    machine.LeavesFlagged (.subtract x y) x ((a - b) % 256) (if b ≤ a then 1 else 0) ∧
    machine.LeavesFlagged (.subtractFrom x y) x ((b - a) % 256) (if a ≤ b then 1 else 0) ∧
    machine.LeavesFlagged (.shiftRight x y) x (source / 2) (source % 2) ∧
    machine.LeavesFlagged (.shiftLeft x y) x (2 * source % 256) (source / 128) ∧
    (x ≠ y → x ≠ flagRegister → y ≠ flagRegister →
      ∃ sum, machine.Performs (.add x y) sum ∧ sum.Valid ∧
        ∀ between : Machine, between.Valid → between.registers = sum.registers →
          ∃ back, between.Performs (.subtract x y) back ∧
            back.registers.get x = machine.registers.get x ∧
            ((back.registers.get flagRegister).toNat : Int) =
              1 - (sum.registers.get flagRegister).toNat) := by
  intro a b source
  have shifted : ((machine.shiftSource x y).toNat : Int) = source :=
    machine.toInt_shiftSource x y
  have right := valid.leavesFlagged_shiftRight x y
  have left := valid.leavesFlagged_shiftLeft x y
  rw [shifted] at right left
  exact ⟨valid.leavesFlagged_add x y, valid.leavesFlagged_subtract x y,
    valid.leavesFlagged_subtractFrom x y, right, left, valid.add_undone⟩

/-- A machine about to add two registers, with a carry, and then to take the second one from the
sum. -/
def carrying : Machine :=
  { unpowered {} false {} with
    memory := (Memory.zeros Layout.memorySize).place 0 [0x83, 0x44, 0x83, 0x45]
    registers := Registers.write (Vector.replicate 16 0x9f) ⟨3, by decide⟩ 0xc8 }

theorem valid_carrying : carrying.Valid :=
  { valid_unpowered {} false {} with
    memory := by rw [carrying, Memory.size_place, Memory.size_zeros]; rfl }

/-- The flag prevails where it goes into the register of the result, and the sum is taken back. -/
theorem arithmetic_flagged_carrying :
    carrying.Valid ∧ carrying.LeavesFlagged (.add 0xf 0xf) 0xf 0x3e 1 ∧
      carrying.nextWord = 0x8344 ∧ carrying.cycle.machine.registers.get flagRegister = 1 ∧
      carrying.cycle.machine.nextWord = 0x8345 ∧
      carrying.cycle.machine.cycle.machine.registers.get 3 = 0xc8 ∧
      carrying.cycle.machine.cycle.machine.registers.get flagRegister = 0 := by
  obtain ⟨word, next, carry⟩ : carrying.nextWord = Instruction.encode (.add 3 4) ∧
      carrying.cycle.machine.nextWord = Instruction.encode (.subtract 3 4) ∧
      carrying.cycle.machine.registers.get flagRegister = 1 := by
    decide +kernel
  obtain ⟨doubled, -⟩ := arithmetic_flagged valid_carrying 0xf 0xf
  obtain ⟨-, -, -, -, -, undone⟩ := arithmetic_flagged valid_carrying 3 4
  obtain ⟨sum, adds, -, restores⟩ := undone (by decide) (by decide) (by decide)
  have left : carrying.cycle.machine.registers = sum.registers := by
    rw [(adds.cycled word).2]
  obtain ⟨back, subtracts, restored, borrow⟩ := restores _ valid_carrying.cycle left
  have after : carrying.cycle.machine.cycle.machine.registers = back.registers := by
    rw [(subtracts.cycled next).2]
  rw [← left, carry] at borrow
  refine ⟨valid_carrying, doubled, word, carry, next, ?_, ?_⟩
  · rw [after, restored]
    rfl
  · rw [after]
    exact UInt8.toNat_inj.mp (Int.ofNat_inj.mp borrow)

end Machine

end Chip8
