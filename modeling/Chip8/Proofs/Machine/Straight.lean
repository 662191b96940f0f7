import Chip8.Proofs.Machine.Failures

/-! # Instructions that go straight on

Most instructions neither read nor set the program counter. Such an instruction does the same
whether it is executed by itself or fetched by a cycle, which moves past its word besides.
-/

namespace Chip8.Machine

variable {machine : Machine}

/-- Instructions that leave the program counter alone on every machine. -/
def Straight : Instruction → Prop
  | .jump _ | .call _ | .ret | .jumpOffset _ | .awaitKey _ => False
  | .skipIfByte _ _ | .skipUnlessByte _ _ | .skipIfEqual _ _ | .skipUnlessEqual _ _ => False
  | .skipIfKey _ | .skipUnlessKey _ => False
  | _ => True

/-- An instruction succeeds and leaves a machine, and a cycle that fetches it succeeds and leaves
the same machine past the word. -/
structure Performs (machine : Machine) (instruction : Instruction) (after : Machine) : Prop where
  executed : execute instruction machine = .ok () after
  cycled : machine.nextWord = instruction.encode →
    machine.cycle.fault = none ∧
      machine.cycle.machine = { after with
        origin := machine.pc
        word := machine.nextWord
        pc := Layout.wrap (machine.pc + 2) }

theorem effect_fetched (machine : Machine) {instruction : Instruction}
    (straight : Straight instruction) :
    machine.fetched.effect instruction = { machine.effect instruction with
      origin := machine.pc
      word := machine.nextWord
      pc := Layout.wrap (machine.pc + 2) } := by
  cases instruction
  case jump | call | ret | jumpOffset | awaitKey => exact straight.elim
  case skipIfByte | skipUnlessByte | skipIfEqual | skipUnlessEqual => exact straight.elim
  case skipIfKey | skipUnlessKey => exact straight.elim
  all_goals rfl

theorem refusal_of_straight (machine : Machine) {instruction : Instruction}
    (straight : Straight instruction) : machine.refusal instruction = none := by
  cases instruction
  case call | ret => exact straight.elim
  all_goals rfl

theorem Valid.withRegisters (valid : machine.Valid) (registers : Registers) :
    { machine with registers }.Valid := { valid with }

/-- On a valid machine an instruction that goes straight on has its effect, and a cycle too. -/
theorem Valid.performs (valid : machine.Valid) {instruction : Instruction}
    (straight : Straight instruction) :
    machine.Performs instruction (machine.effect instruction) where
  executed := valid.execute_eq (refusal_of_straight machine straight)
  cycled word := by
    rw [valid.cycle_decoded (decode?_nextWord_iff.mpr word.symm)]
    exact ⟨refusal_of_straight machine.fetched straight, effect_fetched machine straight⟩

end Chip8.Machine
