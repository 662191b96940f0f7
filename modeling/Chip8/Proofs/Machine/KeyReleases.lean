import Chip8.Proofs.Keypad
import Chip8.Proofs.Machine.KeyTests

/-! # Releasing the keys that are tested

No cycle sets a key down. So on the variant that releases the keys it tests, a key that one test
found down is found down by another only if it was written in between.
-/

namespace Chip8.Machine

variable {machine : Machine} {key : Key} {operation : Operation}

/-- The next cycle tests a key and finds it down. -/
def FindsDown (machine : Machine) (key : Key) : Prop :=
  machine.testing? = some key ∧ machine.keypad.holds key = true

theorem FindsDown.holds_cycle (finds : machine.FindsDown key)
    (releases : machine.variant.testsRelease = true) :
    machine.cycle.machine.keypad.holds key = false := by
  rw [keypad_cycle, if_pos releases, finds.1, keypadWithout, Keypad.holds_set, if_pos rfl]

theorem holds_of_holds_cycle (down : machine.cycle.machine.keypad.holds key = true) :
    machine.keypad.holds key = true := by
  rw [keypad_cycle] at down
  split at down
  · cases tests : machine.testing? with
    | none =>
      rw [tests] at down
      exact down
    | some tested =>
      rw [tests, keypadWithout, Keypad.holds_set] at down
      split at down
      · cases down
      · exact down
  · exact down

/-- An operation that sets a key down is a write that does. -/
theorem write_of_raised (up : machine.keypad.holds key = false)
    (down : (machine.perform operation).machine.keypad.holds key = true) :
    ∃ write, operation = .keys write ∧ write.write? key = some true := by
  cases operation with
  | load program =>
    rw [perform, machine_outcome, (sparesKeys_load program machine).keypad, up] at down
    cases down
  | reset =>
    rw [perform, machine_outcome, (sparesKeys_reset machine).keypad, up] at down
    cases down
  | cycle => cases up.symm.trans (holds_of_holds_cycle down)
  | tick | present => cases up.symm.trans down
  | keys write =>
    refine ⟨write, rfl, ?_⟩
    rw [perform, Keypad.holds_apply, up] at down
    cases written : write.write? key with
    | none =>
      rw [written] at down
      cases down
    | some isDown =>
      rw [written] at down
      exact congrArg some down

theorem exists_write_of_raised {operations : List Operation}
    (up : machine.keypad.holds key = false)
    (down : (machine.run operations).keypad.holds key = true) :
    ∃ write, .keys write ∈ operations ∧ write.write? key = some true := by
  induction operations generalizing machine with
  | nil => cases up.symm.trans down
  | cons operation rest ih =>
    cases later : (machine.perform operation).machine.keypad.holds key with
    | true =>
      obtain ⟨write, rfl, sets⟩ := write_of_raised up later
      exact ⟨write, List.mem_cons_self, sets⟩
    | false =>
      obtain ⟨write, member, sets⟩ := ih later down
      exact ⟨write, List.mem_cons_of_mem _ member, sets⟩

theorem variant_perform (machine : Machine) (operation : Operation) :
    (machine.perform operation).machine.variant = machine.variant := by
  cases operation with
  | load program =>
    rw [perform, machine_outcome]
    exact (sparesKeys_load program machine).variant
  | reset =>
    rw [perform, machine_outcome]
    exact (sparesKeys_reset machine).variant
  | cycle => exact machine.variant_cycle
  | tick | keys | present => rfl

theorem variant_run (machine : Machine) (operations : List Operation) :
    (machine.run operations).variant = machine.variant := by
  induction operations generalizing machine with
  | nil => rfl
  | cons operation rest ih => rw [run_cons, ih, variant_perform]

/-- Whatever else is done to a machine, on the variant that releases the keys it tests a key is
found down by two tests only if it is pressed in between. On the other variant no cycle changes the
keypad. -/
theorem found_down_once_a_press (machine : Machine) (earlier between : List Operation) (key : Key) :
    (machine.variant.testsRelease = true → (machine.run earlier).FindsDown key →
      (machine.run (earlier ++ .cycle :: between)).FindsDown key →
      ∃ number : Int, number % 16 = key.val ∧
        (.keys (.press number) ∈ between ∨ .keys (.setKey number true) ∈ between)) ∧
    (machine.variant.testsRelease = false →
      (machine.run (earlier ++ [.cycle])).keypad = (machine.run earlier).keypad) := by
  constructor
  · rintro releases first ⟨-, down⟩
    rw [← variant_run machine earlier] at releases
    have up := first.holds_cycle releases
    rw [run_append, run_cons] at down
    obtain ⟨write, member, sets⟩ := exists_write_of_raised up down
    obtain ⟨number, named, rfl | rfl⟩ := Keypad.Operation.write?_eq_some_true_iff.mp sets
    · exact ⟨number, named, .inl member⟩
    · exact ⟨number, named, .inr member⟩
  · intro keeps
    have kept : (machine.run earlier).variant.testsRelease = false := by
      rw [variant_run]
      exact keeps
    rw [run_append]
    change (machine.run earlier).cycle.machine.keypad = _
    rw [keypad_cycle, kept, if_neg Bool.false_ne_true]

/-- A machine with a program that skips a word if key 0 is down, and then skips one if it is up. -/
def skipTester (variant : Variant) : Machine :=
  (unpowered variant false {}).restarted.loaded [0xe0, 0x9e, 0, 0, 0xe0, 0xa1]

theorem found_down_once_skipTester :
    (∃ number : Int, number % 16 = 0 ∧
      (Operation.keys (.press number) ∈ [.tick, .keys (.setKey (-32) true)] ∨
        Operation.keys (.setKey number true) ∈ [.tick, .keys (.setKey (-32) true)])) ∧
    ((skipTester {}).run [.keys (.press 16), .cycle]).keypad =
      ((skipTester {}).run [.keys (.press 16)]).keypad := by
  constructor
  · obtain ⟨first, second⟩ :
        ((skipTester { testsRelease := true }).run [.keys (.press 16)]).FindsDown 0 ∧
          ((skipTester { testsRelease := true }).run
            [.keys (.press 16), .cycle, .tick, .keys (.setKey (-32) true)]).FindsDown 0 := by
      rw [FindsDown, FindsDown]
      decide +kernel
    exact (found_down_once_a_press (skipTester { testsRelease := true }) [.keys (.press 16)] _ 0).1
      rfl first second
  · exact (found_down_once_a_press (skipTester {}) [.keys (.press 16)] [] 0).2 rfl

end Chip8.Machine
