import Chip8.Proofs.Machine.Cycle
import Chip8.Proofs.Machine.Loading

/-! # Operations and runs

Whoever owns a machine loads programs into it, resets it, runs its cycles, ticks its timers, sets
its keys and presents its picture, in any order and as often as it likes. A run goes on after an
operation that failed, from the machine that the failure left.
-/

namespace Chip8

/-- What an input does to a keypad. -/
inductive Keypad.Operation where
  | press (number : Int)
  | release (number : Int)
  | setKey (number : Int) (isDown : Bool)
  | releaseAll
deriving DecidableEq, Repr

def Keypad.apply (keypad : Keypad) : Keypad.Operation → Keypad
  | .press number => keypad.press number
  | .release number => keypad.release number
  | .setKey number isDown => keypad.setKey number isDown
  | .releaseAll => keypad.releaseAll

namespace Machine

inductive Operation where
  | load (program : List UInt8)
  | reset
  | cycle
  | tick
  | keys (operation : Keypad.Operation)
  /-- The picture is presented to a display that shows it or fails. -/
  | present (shows : Bool)
deriving DecidableEq, Repr

/-- Operations that neither run a program nor replace it. -/
def Operation.isPeripheral : Operation → Bool
  | .tick | .keys _ | .present _ => true
  | .load _ | .reset | .cycle => false

/-- What an operation leaves, whether or not it fails. -/
def perform (machine : Machine) : Operation → Outcome
  | .load program => outcome (load program) [] machine
  | .reset => outcome reset [] machine
  | .cycle => machine.cycle
  | .tick => { machine := machine.tick }
  | .keys operation => { machine := { machine with keypad := machine.keypad.apply operation } }
  | .present shows =>
      { machine := { machine with
          framebuffer := machine.framebuffer.afterPresent (Framebuffer.plainDisplay shows) () } }

/-- What operations leave that are performed in order, one outcome for each of them. -/
def outcomes (machine : Machine) : List Operation → List Outcome
  | [] => []
  | operation :: rest =>
      machine.perform operation :: (machine.perform operation).machine.outcomes rest

/-- The machine after operations in order. -/
def run (machine : Machine) (operations : List Operation) : Machine :=
  operations.foldl (fun machine operation => (machine.perform operation).machine) machine

variable {machine : Machine}

@[simp] theorem run_nil (machine : Machine) : machine.run [] = machine := rfl

@[simp] theorem run_cons (machine : Machine) (operation : Operation)
    (operations : List Operation) :
    machine.run (operation :: operations) = (machine.perform operation).machine.run operations :=
  rfl

@[simp] theorem run_append (machine : Machine) (first second : List Operation) :
    machine.run (first ++ second) = (machine.run first).run second :=
  List.foldl_append

/-! ### Peripheral operations -/

/-- A peripheral operation changes nothing but the picture, the keys and the timers. -/
theorem perform_peripheral {operation : Operation} (peripheral : operation.isPeripheral) :
    ∃ framebuffer keypad delay sound,
      (machine.perform operation).machine =
        { machine with framebuffer, keypad, delay, sound } := by
  cases operation with
  | load | reset | cycle => cases peripheral
  | tick => exact ⟨_, _, _, _, rfl⟩
  | keys operation => exact ⟨_, machine.keypad.apply operation, _, _, rfl⟩
  | present shows => exact ⟨_, _, machine.delay, machine.sound, rfl⟩

theorem run_peripheral {operations : List Operation}
    (peripheral : ∀ operation ∈ operations, operation.isPeripheral) :
    ∃ framebuffer keypad delay sound,
      machine.run operations = { machine with framebuffer, keypad, delay, sound } := by
  induction operations generalizing machine with
  | nil => exact ⟨_, _, _, _, rfl⟩
  | cons operation rest ih =>
    obtain ⟨first, later⟩ := List.forall_mem_cons.mp peripheral
    obtain ⟨framebuffer, keypad, delay, sound, performed⟩ := @perform_peripheral machine _ first
    rw [run_cons, performed]
    exact ih later

/-! ### Validity is kept by runs -/

theorem Valid.perform_load (valid : machine.Valid) (program : List UInt8) :
    machine.perform (.load program) =
      if program.length ≤ 0xe00 then { machine := machine.loaded program }
      else { machine, fault := some (.programTooLong program.length 0xe00) } := by
  by_cases short : program.length ≤ 0xe00
  · rw [if_pos short, perform, outcome, valid.load_short short]
  · rw [if_neg short, perform, outcome, valid.load_long (Nat.not_le.mp short)]

theorem Valid.perform_reset (valid : machine.Valid) :
    machine.perform .reset = { machine := machine.restarted } := by
  rw [perform, outcome, reset_eq valid.memory]

theorem tickDown_bounds {timer most : Int} (bounds : 0 ≤ timer ∧ timer ≤ most) :
    0 ≤ tickDown timer ∧ tickDown timer ≤ most := by
  rw [tickDown]
  split <;> omega

theorem Valid.tick (valid : machine.Valid) : machine.tick.Valid :=
  { valid with
    delay := tickDown_bounds valid.delay
    sound := tickDown_bounds valid.sound }

theorem Valid.perform (valid : machine.Valid) (operation : Operation) :
    (machine.perform operation).machine.Valid := by
  cases operation with
  | load program =>
    rw [valid.perform_load]
    split
    · exact valid.loaded program
    · exact valid
  | reset =>
    rw [valid.perform_reset]
    exact valid.restarted
  | cycle => exact valid.cycle
  | tick => exact valid.tick
  | keys operation => exact { valid with }
  | present shows =>
    rw [Machine.perform, Framebuffer.afterPresent_eq]
    exact { valid with }

theorem Valid.run (valid : machine.Valid) (operations : List Operation) :
    (machine.run operations).Valid := by
  induction operations generalizing machine with
  | nil => exact valid
  | cons operation rest ih => exact ih (valid.perform operation)

/-- Whatever is done to a machine that was just switched on, it stays valid. -/
theorem valid_of_fresh (variant : Variant) (tracing : Bool) (random : RandomBytes)
    (operations : List Operation) : ((fresh variant tracing random).run operations).Valid :=
  (valid_fresh variant tracing random).run operations

end Machine

end Chip8
