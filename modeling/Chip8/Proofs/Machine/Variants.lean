import Chip8.Proofs.Machine.Frame

/-! # Where variants differ

A variant is told from another by two kinds of instructions only: by a shift, if its registers
differ, and by the test of a key that is down. Machines that are alike but for their variant go on
alike until a cycle runs one of these.
-/

namespace Chip8

/-- Setting a key to what it is changes nothing. -/
theorem Keypad.set_of_holds {keypad : Keypad} {key : Key} {isDown : Bool}
    (same : keypad.holds key = isDown) : keypad.set key isDown = keypad := by
  rw [← same, Keypad.set, Keypad.holds_eq_getElem, Vector.set_getElem_self]

namespace Machine

open Word (Picks)

variable {machine : Machine}

def withVariant (machine : Machine) (variant : Variant) : Machine := { machine with variant }

theorem Valid.withVariant (valid : machine.Valid) (variant : Variant) :
    (machine.withVariant variant).Valid :=
  { valid with }

/-- A word may show which variant a machine is: it shifts one register by way of another that
differs from it, or it tests a key that is down. -/
def ShowsVariant (machine : Machine) (word : Int) : Prop :=
  let x := machine.registers.get (Word.x word)
  let y := machine.registers.get (Word.y word)
  (word / 0x1000 = 0x8 ∧ (word % 16 = 0x6 ∨ word % 16 = 0xe) ∧ x ≠ y) ∨ -- 8xy6, 8xyE
  ((Picks 0xe 0x9e word ∨ Picks 0xe 0xa1 word) ∧ -- Ex9E, ExA1
    machine.keypad.isDown x.toNat = true)

instance (machine : Machine) (word : Int) : Decidable (machine.ShowsVariant word) :=
  inferInstanceAs (Decidable (_ ∨ _))

/-! ### Instructions -/

/-- A shift shows no difference where both of its registers hold the same. -/
theorem shiftSource_withVariant (variant : Variant) {x y : Register}
    (same : machine.registers.get x = machine.registers.get y) :
    (machine.withVariant variant).shiftSource x y = machine.shiftSource x y := by
  have source : ∀ other : Variant,
      (machine.withVariant other).shiftSource x y = machine.registers.get y := by
    intro other
    rw [shiftSource]
    split
    · rfl
    · exact same
  exact (source variant).trans (source machine.variant).symm

/-- A key that is up is not changed by being released. -/
theorem keyTested_up {x : Register} (skipsWhenDown : Bool)
    (up : machine.keypad.isDown (machine.registers.get x).toNat = false) :
    machine.keyTested x skipsWhenDown = machine.skipIf (false == skipsWhenDown) := by
  have released : machine.keypad.release (machine.registers.get x).toNat = machine.keypad :=
    Keypad.set_of_holds up
  simp only [keyTested, released, up, ite_self]
  rfl

theorem keyTested_withVariant (variant : Variant) {x : Register} (skipsWhenDown : Bool)
    (up : ¬ machine.keypad.isDown (machine.registers.get x).toNat = true) :
    (machine.withVariant variant).keyTested x skipsWhenDown =
      (machine.keyTested x skipsWhenDown).withVariant variant := by
  have isUp := Bool.eq_false_iff.mpr up
  rw [keyTested_up skipsWhenDown isUp, @keyTested_up (machine.withVariant variant) _ _ isUp]
  rfl

/-- A shift that shows no variant has two registers that hold the same. -/
theorem get_eq_of_silent_shift {x y : Register} {nibble : Fin 16}
    (shifts : nibble.val = 0x6 ∨ nibble.val = 0xe)
    (silent : ¬ machine.ShowsVariant (Word.ofNibble 0x8 x y nibble)) :
    machine.registers.get x = machine.registers.get y := by
  by_contra differ
  refine silent (.inl ⟨Word.family_ofNibble 0x8 x y nibble, ?_, ?_⟩)
  · rw [Word.last_ofNibble]
    omega
  · rwa [Word.x_ofNibble, Word.y_ofNibble]

/-- An instruction whose word shows no variant does the same on all of them. -/
theorem effect_withVariant (variant : Variant) {instruction : Instruction}
    (silent : ¬ machine.ShowsVariant instruction.encode) :
    (machine.withVariant variant).effect instruction =
      (machine.effect instruction).withVariant variant := by
  cases instruction
  case shiftRight x y =>
    have same := get_eq_of_silent_shift (.inl rfl) silent
    simp only [effect, shiftSource_withVariant variant same]
    rfl
  case shiftLeft x y =>
    have same := get_eq_of_silent_shift (.inr rfl) silent
    simp only [effect, shiftSource_withVariant variant same]
    rfl
  case skipIfKey x =>
    refine keyTested_withVariant variant true fun down => silent (.inr ⟨.inl ?_, ?_⟩)
    · exact Word.picks_ofByte 0xe x 0x9e
    · rwa [Instruction.encode, Word.x_ofByte]
  case skipUnlessKey x =>
    refine keyTested_withVariant variant false fun down => silent (.inr ⟨.inr ?_, ?_⟩)
    · exact Word.picks_ofByte 0xe x 0xa1
    · rwa [Instruction.encode, Word.x_ofByte]
  case ret => simp only [effect, withVariant]; split <;> rfl
  case call => simp only [effect, withVariant]; split <;> rfl
  case awaitKey => simp only [effect, keyAwaited, withVariant]; split <;> rfl
  all_goals rfl

/-! ### Operations -/

theorem restarted_withVariant (machine : Machine) (variant : Variant) :
    (machine.withVariant variant).restarted = machine.restarted.withVariant variant := rfl

theorem report_withVariant (machine : Machine) (variant : Variant) (fault : Fault) :
    fault.message (machine.withVariant variant) = fault.message machine := by
  cases fault <;> rfl

/-- What the same operation leaves of two variants of a machine, up to the lines that it traces,
which tell how a shift was read. -/
structure Outcome.Variants (variant : Variant) (first second : Outcome) : Prop where
  machine : first.machine = second.machine.withVariant variant
  fault : first.fault = second.fault

theorem Valid.variants_cycle (valid : machine.Valid) (variant : Variant)
    (silent : ¬ machine.ShowsVariant machine.nextWord) :
    Outcome.Variants variant (machine.withVariant variant).cycle machine.cycle := by
  have word : (machine.withVariant variant).nextWord = machine.nextWord := rfl
  cases decoded : Instruction.decode? machine.nextWord with
  | none =>
    rw [valid.cycle_undecoded decoded, (valid.withVariant variant).cycle_undecoded (word ▸ decoded)]
    exact ⟨rfl, rfl⟩
  | some instruction =>
    rw [← decode?_nextWord_iff.mp decoded] at silent
    rw [valid.cycle_decoded decoded, (valid.withVariant variant).cycle_decoded (word ▸ decoded)]
    exact ⟨@effect_withVariant machine.fetched variant instruction silent, by
      cases instruction <;> rfl⟩

theorem Valid.variants_perform (valid : machine.Valid) (variant : Variant) {operation : Operation}
    (silent : operation = .cycle → ¬ machine.ShowsVariant machine.nextWord) :
    Outcome.Variants variant ((machine.withVariant variant).perform operation)
      (machine.perform operation) := by
  cases operation with
  | cycle => exact valid.variants_cycle variant (silent rfl)
  | load program =>
    rw [valid.perform_load, (valid.withVariant variant).perform_load]
    split <;> exact ⟨rfl, rfl⟩
  | reset =>
    rw [valid.perform_reset, (valid.withVariant variant).perform_reset]
    exact ⟨restarted_withVariant machine variant, rfl⟩
  | tick | keys | present => exact ⟨rfl, rfl⟩

/-- Two machines that differ in nothing but their variant go through states that differ in nothing
else, and fail alike, as long as no cycle runs a word that shows a variant. -/
theorem variants_agree (valid : machine.Valid) (variant : Variant) {operations : List Operation}
    (silent : ∀ step, operations[step]? = some .cycle →
      let before := machine.run (operations.take step)
      ¬ before.ShowsVariant before.nextWord) :
    List.Forall₂
      (fun first second =>
        first.machine = second.machine.withVariant variant ∧
          second.machine.variant = machine.variant ∧
          first.fault = second.fault ∧ first.report = second.report)
      ((machine.withVariant variant).outcomes operations) (machine.outcomes operations) := by
  induction operations generalizing machine with
  | nil => exact .nil
  | cons operation rest ih =>
    have first : operation = .cycle → ¬ machine.ShowsVariant machine.nextWord := by
      rintro rfl
      exact silent 0 rfl
    have later : ∀ step, rest[step]? = some .cycle →
        let before := (machine.perform operation).machine.run (rest.take step)
        ¬ before.ShowsVariant before.nextWord :=
      fun step cycles => silent (step + 1) cycles
    obtain ⟨left, fault⟩ := valid.variants_perform variant first
    have kept := (valid.settings_perform operation).1
    have following := ih (valid.perform operation) later
    rw [← left, kept] at following
    refine .cons ⟨left, kept, fault, ?_⟩ following
    rw [Outcome.report, Outcome.report, fault, left]
    exact Option.map_congr fun fault _ => report_withVariant _ variant fault

/-- A machine about to shift the flag by way of a register that holds the same, and then to test
the only key that is up and fail. -/
def evenShifter : Machine :=
  { unpowered {} false {} with
    memory := (Memory.zeros Layout.memorySize).place 0 [0x8f, 0x2e, 0xe1, 0xa1]
    keypad := Keypad.ofMask 0xffdf
    registers := Vector.replicate 16 0x85 }

theorem valid_evenShifter : evenShifter.Valid :=
  { valid_unpowered {} false {} with
    memory := by rw [evenShifter, Memory.size_place, Memory.size_zeros]; rfl }

theorem variants_agree_evenShifter :
    let copying : Variant := { shiftsCopy := true, testsRelease := true }
    let operations : List Operation := [.cycle, .tick, .cycle, .cycle]
    evenShifter.Valid ∧
      (∀ step, operations[step]? = some .cycle →
        let before := evenShifter.run (operations.take step)
        ¬ before.ShowsVariant before.nextWord) ∧
      (evenShifter.outcomes operations).map (·.fault) = [none, none, none, some .unsupported] ∧
      (evenShifter.run operations).registers.get flagRegister = 1 ∧
      List.Forall₂
        (fun first second =>
          first.machine = second.machine.withVariant copying ∧
            second.machine.variant = evenShifter.variant ∧
            first.fault = second.fault ∧ first.report = second.report)
        ((evenShifter.withVariant copying).outcomes operations)
        (evenShifter.outcomes operations) := by
  intro copying operations
  obtain ⟨silent, faults, flag⟩ :
      (∀ step < 4, ¬ (evenShifter.run (operations.take step)).ShowsVariant
        (evenShifter.run (operations.take step)).nextWord) ∧
      (evenShifter.outcomes operations).map (·.fault) = [none, none, none, some .unsupported] ∧
      (evenShifter.run operations).registers.get flagRegister = 1 := by
    decide +kernel
  have spared : ∀ step, operations[step]? = some .cycle →
      let before := evenShifter.run (operations.take step)
      ¬ before.ShowsVariant before.nextWord :=
    fun step cycles => silent step (List.getElem?_eq_some_iff.mp cycles).1
  exact ⟨valid_evenShifter, spared, faults, flag, variants_agree valid_evenShifter copying spared⟩

end Machine

end Chip8
