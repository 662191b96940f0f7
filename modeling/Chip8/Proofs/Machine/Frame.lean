import Chip8.Proofs.Machine.Failures
import Chip8.Proofs.Machine.Twins

/-! # What instructions leave alone

Every part of a machine is changed by a few instructions only. Which ones these are is told by the
digits of the word, and whatever registers the operands name, no other part changes with it.
-/

namespace Chip8

namespace Word

/-- The words of a family that the last two digits pick. -/
def Picks (family selector word : Int) : Prop := word / 0x1000 = family ∧ word % 0x100 = selector

/-- The words that may change a register. -/
def MayWrite (word : Int) (register : Register) : Prop :=
  (register = x word ∧
    (word / 0x1000 = 0x6 ∨ word / 0x1000 = 0x7 ∨ word / 0x1000 = 0x8 ∨ word / 0x1000 = 0xc ∨
      Picks 0xf 0x07 word ∨ Picks 0xf 0x0a word)) ∨
  (register ≤ x word ∧ Picks 0xf 0x65 word) ∨
  (register = Machine.flagRegister ∧
    (word / 0x1000 = 0x8 ∧ word % 16 ∈ [0x4, 0x5, 0x6, 0x7, 0xe] ∨ word / 0x1000 = 0xd))

instance (family selector word : Int) : Decidable (Picks family selector word) :=
  inferInstanceAs (Decidable (_ ∧ _))

instance (word : Int) (register : Register) : Decidable (MayWrite word register) :=
  inferInstanceAs (Decidable (_ ∨ _))

section Operands

variable (family : Nat) (x y : Register) (nibble : Fin 16) (byte : UInt8)

theorem picks_ofByte : Picks family byte.toNat (ofByte family x byte) :=
  ⟨family_ofByte family x byte, last_ofByte family x byte⟩

/-- Arithmetic on two registers leaves its result in the first. -/
theorem mayWrite_ofNibble : MayWrite (ofNibble 0x8 x y nibble) x :=
  .inl ⟨(x_ofNibble 0x8 x y nibble).symm, .inr (.inr (.inl (family_ofNibble 0x8 x y nibble)))⟩

theorem mayWrite_flag (flagged : (nibble.val : Int) ∈ [0x4, 0x5, 0x6, 0x7, 0xe]) :
    MayWrite (ofNibble 0x8 x y nibble) Machine.flagRegister := by
  rw [← last_ofNibble 0x8 x y nibble] at flagged
  exact .inr (.inr ⟨rfl, .inl ⟨family_ofNibble 0x8 x y nibble, flagged⟩⟩)

theorem mayWrite_draw : MayWrite (ofNibble 0xd x y nibble) Machine.flagRegister :=
  .inr (.inr ⟨rfl, .inr (family_ofNibble 0xd x y nibble)⟩)

end Operands

end Word

namespace Registers

variable {registers : Registers} {x y : Register} {byte : UInt8}

theorem eq_of_get_write_ne (changed : (registers.write x byte).get y ≠ registers.get y) : y = x := by
  by_contra other
  rw [get_write, if_neg other] at changed
  exact changed rfl

theorem mem_of_get_fill_ne {memory : Memory} {address : Int} {filled : List Register}
    (changed : (registers.fill memory address filled).get y ≠ registers.get y) : y ∈ filled := by
  induction filled generalizing registers address with
  | nil => exact absurd rfl changed
  | cons x rest ih =>
    by_cases first : (registers.write x (memory.byteAt (Layout.wrap address))).get y = registers.get y
    · rw [← first] at changed
      exact List.mem_cons_of_mem x (ih changed)
    · exact List.mem_cons.mpr (.inl (eq_of_get_write_ne first))

end Registers

namespace Machine

open Word (Picks MayWrite)

variable {machine : Machine}

theorem le_of_mem_registersTo {x y : Register} (member : y ∈ registersTo x) : y ≤ x := by
  rw [registersTo, List.mem_take_iff_getElem] at member
  obtain ⟨position, inside, rfl⟩ := member
  rw [List.getElem_finRange, Fin.le_def]
  simp only [Fin.val_cast]
  omega

/-- Of two machines, the second has nothing changed but what a word may change. Of the parts that
every word changes when it is fetched, and of the random bytes, nothing is said. -/
structure Confined (word : Int) (before after : Machine) : Prop where
  registers : ∀ register, after.registers.get register ≠ before.registers.get register →
    MayWrite word register
  index : after.index ≠ before.index →
    word / 0x1000 = 0xa ∨ Picks 0xf 0x1e word ∨ Picks 0xf 0x29 word
  delay : after.delay ≠ before.delay → Picks 0xf 0x15 word
  sound : after.sound ≠ before.sound → Picks 0xf 0x18 word
  memory : after.memory ≠ before.memory → Picks 0xf 0x33 word ∨ Picks 0xf 0x55 word
  stack : after.stack ≠ before.stack → word / 0x1000 = 0x2 ∨ word = 0x00ee
  framebuffer : after.framebuffer ≠ before.framebuffer → word = 0x00e0 ∨ word / 0x1000 = 0xd
  awaitingKey : after.awaitingKey ≠ before.awaitingKey → Picks 0xf 0x0a word
  /-- The key that was tested is released, on the variant that does so. -/
  keypad : ∀ key, after.keypad.holds key ≠ before.keypad.holds key →
    (Picks 0xe 0x9e word ∨ Picks 0xe 0xa1 word) ∧ before.variant.testsRelease = true ∧
      key = Key.ofInt (before.registers.get (Word.x word)).toNat ∧ after.keypad.holds key = false
  variant : after.variant = before.variant
  tracing : after.tracing = before.tracing

theorem Confined.refl (word : Int) (machine : Machine) : Confined word machine machine where
  registers _ changed := absurd rfl changed
  index changed := absurd rfl changed
  delay changed := absurd rfl changed
  sound changed := absurd rfl changed
  memory changed := absurd rfl changed
  stack changed := absurd rfl changed
  framebuffer changed := absurd rfl changed
  awaitingKey changed := absurd rfl changed
  keypad _ changed := absurd rfl changed
  variant := rfl
  tracing := rfl

/-! ### Results, flags and keys -/

section Parts

variable {word : Int} {x : Register} {byte : UInt8} {flag : Bool}

theorem confined_withRegister (result : MayWrite word x) :
    Confined word machine (machine.withRegister x byte) := by
  refine { Confined.refl word machine with registers := ?_ }
  intro register changed
  rw [Registers.eq_of_get_write_ne changed]
  exact result

/-- A flag is set after the result, in the same register or in another one. -/
theorem confined_withFlag (result : MayWrite word x) (carry : MayWrite word flagRegister) :
    Confined word machine ((machine.withRegister x byte).withFlag flag) := by
  refine { Confined.refl word machine with registers := ?_ }
  intro register changed
  by_cases written :
      (machine.withRegister x byte).registers.get register = machine.registers.get register
  · rw [← written] at changed
    rw [Registers.eq_of_get_write_ne changed]
    exact carry
  · rw [Registers.eq_of_get_write_ne written]
    exact result

theorem confined_keyTested (machine : Machine)
    (tests : Picks 0xe 0x9e word ∨ Picks 0xe 0xa1 word) (skipsWhenDown : Bool) :
    Confined word machine (machine.keyTested (Word.x word) skipsWhenDown) := by
  refine { Confined.refl word machine with keypad := ?_ }
  intro key changed
  simp only [keyTested] at changed ⊢
  by_cases releases : machine.variant.testsRelease = true
  · rw [if_pos releases, Keypad.release, Keypad.setKey, Keypad.holds_set] at changed ⊢
    by_cases tested : key = Key.ofInt (machine.registers.get (Word.x word)).toNat
    · exact ⟨tests, releases, tested, if_pos tested⟩
    · rw [if_neg tested] at changed
      exact absurd rfl changed
  · rw [if_neg releases] at changed
    exact absurd rfl changed

end Parts

/-! ### Instructions -/

theorem confined_effect (machine : Machine) (instruction : Instruction) :
    Confined instruction.encode machine (machine.effect instruction) := by
  have same : Confined instruction.encode machine machine := .refl _ _
  cases instruction
  case jump | jumpOffset | skipIfByte | skipUnlessByte | skipIfEqual | skipUnlessEqual =>
    exact { same with }
  case clearScreen => exact { same with framebuffer := fun _ => .inl rfl }
  case ret =>
    rw [effect]
    split
    · exact { same with stack := fun _ => .inr rfl }
    · exact same
  case call address =>
    rw [effect]
    split
    · exact { same with stack := fun _ => .inl (Word.family_ofAddress 0x2 address) }
    · exact same
  case loadByte x byte | addByte x byte => exact confined_withRegister (by simp [MayWrite, Instruction.encode])
  case copy x y | or x y | and x y | xor x y =>
    exact confined_withRegister (Word.mayWrite_ofNibble x y _)
  case add x y | subtract x y | subtractFrom x y | shiftRight x y | shiftLeft x y =>
    exact confined_withFlag (Word.mayWrite_ofNibble x y _) (Word.mayWrite_flag x y _ (by decide))
  case random x byte =>
    have drawn : MayWrite (Word.ofByte 0xc x byte) x := by simp [MayWrite]
    exact { confined_withRegister drawn with }
  case draw x y height =>
    have flags := Word.mayWrite_draw x y height
    exact { confined_withFlag flags flags with
      framebuffer := fun _ => .inr (Word.family_ofNibble 0xd x y height) }
  case loadIndex address =>
    exact { same with index := fun _ => .inl (Word.family_ofAddress 0xa address) }
  case addIndex x =>
    exact { same with index := fun _ => .inr (.inl (Word.picks_ofByte 0xf x 0x1e)) }
  case loadGlyph x =>
    exact { same with index := fun _ => .inr (.inr (Word.picks_ofByte 0xf x 0x29)) }
  case skipIfKey x =>
    have tests := confined_keyTested machine (.inl (Word.picks_ofByte 0xe x 0x9e)) true
    rwa [Word.x_ofByte] at tests
  case skipUnlessKey x =>
    have tests := confined_keyTested machine (.inr (Word.picks_ofByte 0xe x 0xa1)) false
    rwa [Word.x_ofByte] at tests
  case readDelay x =>
    have read : MayWrite (Word.ofByte 0xf x 0x07) x := by simp [MayWrite, Picks]
    exact confined_withRegister read
  case awaitKey x =>
    have picks := Word.picks_ofByte 0xf x 0x0a
    rw [effect, keyAwaited]
    split
    · exact { same with awaitingKey := fun _ => picks }
    · have taken : MayWrite (Word.ofByte 0xf x 0x0a) x :=
        .inl ⟨(Word.x_ofByte 0xf x 0x0a).symm, .inr (.inr (.inr (.inr (.inr picks))))⟩
      exact { confined_withRegister taken with awaitingKey := fun _ => picks }
  case setDelay x => exact { same with delay := fun _ => Word.picks_ofByte 0xf x 0x15 }
  case setSound x => exact { same with sound := fun _ => Word.picks_ofByte 0xf x 0x18 }
  case storeDecimal x =>
    exact { same with memory := fun _ => .inl (Word.picks_ofByte 0xf x 0x33) }
  case storeRegisters x =>
    exact { same with memory := fun _ => .inr (Word.picks_ofByte 0xf x 0x55) }
  case loadRegisters x =>
    refine { same with registers := ?_ }
    intro register changed
    have inside := le_of_mem_registersTo (Registers.mem_of_get_fill_ne changed)
    rw [← Word.x_ofByte 0xf x 0x65] at inside
    exact .inr (.inl ⟨inside, Word.picks_ofByte 0xf x 0x65⟩)

/-- One family of words draws a random byte, whatever the byte is masked with. -/
theorem drawFrom_eq (source : RandomBytes) (instruction : Instruction) :
    instruction.drawFrom source =
      if instruction.encode / 0x1000 = 0xc then source.advance else source := by
  cases instruction <;> simp [Instruction.drawFrom, Instruction.encode]

/-! ### Cycles -/

theorem Valid.confined_cycle (valid : machine.Valid) :
    Confined machine.nextWord machine machine.cycle.machine := by
  cases decoded : Instruction.decode? machine.nextWord with
  | none =>
    rw [valid.cycle_undecoded decoded]
    exact { Confined.refl machine.nextWord machine with }
  | some instruction =>
    -- Fetching changes nothing that the frame is about.
    have frame := confined_effect machine.fetched instruction
    rw [decode?_nextWord_iff.mp decoded] at frame
    rw [valid.cycle_decoded decoded]
    exact { frame with }

theorem Valid.random_cycle (valid : machine.Valid) :
    machine.cycle.machine.random =
      if machine.nextWord / 0x1000 = 0xc then machine.random.advance else machine.random := by
  cases decoded : Instruction.decode? machine.nextWord with
  | none =>
    have other : machine.nextWord / 0x1000 ≠ 0xc := by
      intro family
      have encoded : Instruction.encode
          (.random (Word.x machine.nextWord) (Word.byte machine.nextWord)) = machine.nextWord :=
        Word.ofByte_eq family rfl
      rw [decode?_nextWord_iff.mpr encoded] at decoded
      cases decoded
    rw [valid.cycle_undecoded decoded, if_neg other]
    rfl
  | some instruction =>
    have draws := drawFrom_eq machine.random instruction
    rw [decode?_nextWord_iff.mp decoded] at draws
    rw [valid.cycle_decoded decoded, ← draws]
    exact random_effect machine.fetched instruction

/-- A cycle changes no part of the machine but those that its word may change, and draws a random
byte exactly if the word is of the family that does. -/
theorem cycle_frame (valid : machine.Valid) :
    Confined machine.nextWord machine machine.cycle.machine ∧
      machine.cycle.machine.random =
        if machine.nextWord / 0x1000 = 0xc then machine.random.advance else machine.random :=
  ⟨valid.confined_cycle, valid.random_cycle⟩

/-- A machine about to mask a random byte with zero. -/
def idleDrawer : Machine :=
  { unpowered {} false { bytes := #[7, 9] } with
    memory := (Memory.zeros Layout.memorySize).put 0 0xc3
    registers := Vector.replicate 16 5 }

theorem valid_idleDrawer : idleDrawer.Valid :=
  { valid_unpowered {} false { bytes := #[7, 9] } with
    memory := by rw [idleDrawer, Memory.size_put, Memory.size_zeros]; rfl }

theorem cycle_frame_idleDrawer :
    idleDrawer.Valid ∧ idleDrawer.nextWord = 0xc300 ∧
      idleDrawer.cycle.machine.random = { bytes := #[7, 9], drawn := 1 } ∧
      ∀ register, register ≠ 3 → idleDrawer.cycle.machine.registers.get register = 5 := by
  have word : idleDrawer.nextWord = 0xc300 := by decide +kernel
  obtain ⟨frame, drawn⟩ := cycle_frame valid_idleDrawer
  rw [word] at frame drawn
  refine ⟨valid_idleDrawer, word, drawn, ?_⟩
  intro register other
  have only : ∀ register, MayWrite 0xc300 register → register = 3 := by decide
  have kept : idleDrawer.cycle.machine.registers.get register =
      idleDrawer.registers.get register := by
    by_contra changed
    exact other (only register (frame.registers register changed))
  rw [kept]
  exact Vector.getElem_replicate register.isLt

/-! ### Settings -/

/-- Nothing that is done to a machine changes its variant or whether it traces. -/
theorem Valid.settings_perform (valid : machine.Valid) (operation : Operation) :
    (machine.perform operation).machine.variant = machine.variant ∧
      (machine.perform operation).machine.tracing = machine.tracing := by
  cases operation with
  | cycle => exact ⟨valid.confined_cycle.variant, valid.confined_cycle.tracing⟩
  | load program =>
    rw [valid.perform_load]
    split <;> exact ⟨rfl, rfl⟩
  | reset =>
    rw [valid.perform_reset, Machine.restarted]
    exact ⟨rfl, rfl⟩
  | tick | keys | present => exact ⟨rfl, rfl⟩

theorem Valid.settings_run (valid : machine.Valid) (operations : List Operation) :
    (machine.run operations).variant = machine.variant ∧
      (machine.run operations).tracing = machine.tracing := by
  induction operations generalizing machine with
  | nil => exact ⟨rfl, rfl⟩
  | cons operation rest ih =>
    obtain ⟨variant, tracing⟩ := valid.settings_perform operation
    rw [run_cons, ← variant, ← tracing]
    exact ih (valid.perform operation)

end Machine

end Chip8
