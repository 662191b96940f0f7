import Chip8.Proofs.Machine.Failures
import Chip8.Proofs.Machine.Sparing

/-! # Testing keys

Two instructions test whether a key is down, and no other instruction has to do with the keypad but
to read it. On the variant that releases the keys it tests, a cycle sets the key up that it tests
and leaves the others alone, so what was down is either found by a test or stays down.
-/

namespace Chip8.Machine

variable {machine : Machine}

/-- The key that an instruction tests, if it tests one. -/
def keyOf? (machine : Machine) : Instruction → Option Key
  | .skipIfKey x => some (Key.ofInt (machine.registers.get x).toNat)
  | .skipUnlessKey x => some (Key.ofInt (machine.registers.get x).toNat)
  | _ => none

/-- The key that the next cycle tests, if it tests one. -/
def tested? (machine : Machine) : Option Key :=
  (Instruction.decode? machine.nextWord).bind machine.keyOf?

/-- The key that the next cycle tests and finds down. -/
def foundDown? (machine : Machine) : Option Key := machine.tested?.filter machine.keypad.holds

/-- The keypad with a key up, if there is one. -/
def keypadWithout (machine : Machine) : Option Key → Keypad
  | some key => machine.keypad.set key false
  | none => machine.keypad

/-- The key that the next cycle tests on any machine, whatever its parts are like. -/
def testing? (machine : Machine) : Option Key :=
  machine.executing?.bind fun execution => execution.2.keyOf? execution.1

theorem keyOf?_of_untested {instruction : Instruction} (untested : instruction.testsKey = false)
    (machine : Machine) : machine.keyOf? instruction = none := by
  cases instruction
  case skipIfKey | skipUnlessKey => cases untested
  all_goals rfl

theorem keypad_execute (instruction : Instruction) (machine : Machine) :
    (leftBy (execute instruction) machine).keypad =
      if machine.variant.testsRelease then machine.keypadWithout (machine.keyOf? instruction)
      else machine.keypad := by
  cases tests : instruction.testsKey with
  | false =>
    rw [(sparesKeys_execute tests machine).keypad, keyOf?_of_untested tests]
    exact (ite_self _).symm
  | true =>
    obtain ⟨x, skipsWhenDown, named, ran⟩ := execute_of_testsKey tests machine
    rw [leftBy_ok ran]
    rcases named with rfl | rfl <;> rfl

theorem variant_execute (instruction : Instruction) (machine : Machine) :
    (leftBy (execute instruction) machine).variant = machine.variant := by
  cases tests : instruction.testsKey with
  | false => exact (sparesKeys_execute tests machine).variant
  | true =>
    obtain ⟨x, skipsWhenDown, -, ran⟩ := execute_of_testsKey tests machine
    rw [leftBy_ok ran]
    rfl

/-- The keypad is written by a test alone, and only on the variant that releases the keys it
tests. -/
theorem keypad_cycle (machine : Machine) :
    machine.cycle.machine.keypad =
      if machine.variant.testsRelease then machine.keypadWithout machine.testing?
      else machine.keypad := by
  rw [testing?]
  cases executes : machine.executing? with
  | none =>
    rw [(sparesKeys_cycle executes).keypad]
    exact (ite_self _).symm
  | some execution =>
    obtain ⟨fetches, left⟩ := cycle_of_executing executes
    rw [left, keypad_execute, fetches.variant, fetches.keypad, Option.bind_some]
    cases tests : execution.2.keyOf? execution.1 with
    | none => simp only [keypadWithout, fetches.keypad]
    | some key => simp only [keypadWithout, fetches.keypad]

theorem variant_cycle (machine : Machine) : machine.cycle.machine.variant = machine.variant := by
  cases executes : machine.executing? with
  | none => exact (sparesKeys_cycle executes).variant
  | some execution =>
    obtain ⟨fetches, left⟩ := cycle_of_executing executes
    rw [left, variant_execute, fetches.variant]

theorem Valid.testing?_eq (valid : machine.Valid) : machine.testing? = machine.tested? := by
  simp only [testing?, executing?, fetchNext_eq valid.memory, fetched_word, tested?]
  cases Instruction.decode? machine.nextWord with
  | none => rfl
  | some instruction => cases instruction <;> rfl

theorem Valid.keypad_cycle (valid : machine.Valid)
    (releases : machine.variant.testsRelease = true) :
    machine.cycle.machine.keypad = machine.keypadWithout machine.tested? := by
  rw [Machine.keypad_cycle, if_pos releases, valid.testing?_eq]

/-- A key that was down before a cycle is down behind it or was found down by its test, and not
both. No cycle sets a key down. -/
theorem Valid.count_foundDown (valid : machine.Valid)
    (releases : machine.variant.testsRelease = true) (key : Key) :
    machine.foundDown?.toList.count key + (machine.cycle.machine.keypad.holds key).toNat =
      (machine.keypad.holds key).toNat := by
  rw [valid.keypad_cycle releases, foundDown?]
  cases machine.tested? with
  | none => exact Nat.zero_add _
  | some tested =>
    rw [keypadWithout, Keypad.holds_set, Option.filter_some]
    by_cases same : key = tested
    · subst same
      cases machine.keypad.holds key <;> simp
    · have other : tested ≠ key := fun equal => same equal.symm
      rw [if_neg same]
      cases machine.keypad.holds tested <;> simp [other]

end Chip8.Machine
