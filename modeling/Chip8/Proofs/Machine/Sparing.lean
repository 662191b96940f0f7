import Chip8.Proofs.Framebuffer.Updates
import Chip8.Proofs.Machine.Cycle

/-! # What machines do without their keys

On any machine, whatever its parts are like, only the instructions that test a key write the
keypad, nothing writes the variant, and whatever writes the picture marks it.
-/

namespace Chip8

/-- Instructions that test a key. -/
def Instruction.testsKey : Instruction → Bool
  | skipIfKey _ => true
  | skipUnlessKey _ => true
  | _ => false

namespace Machine

open Framebuffer (Marked)

variable {machine : Machine}

/-- The keys and the variant are as they were, and so is the picture unless it is marked as
written. -/
structure SparesKeys (before after : Machine) : Prop where
  keypad : after.keypad = before.keypad
  variant : after.variant = before.variant
  picture : Marked before.framebuffer after.framebuffer

instance : Std.Refl SparesKeys := ⟨fun machine => ⟨rfl, rfl, .refl machine.framebuffer⟩⟩

instance : Trans SparesKeys SparesKeys SparesKeys where
  trans early late :=
    { keypad := late.keypad.trans early.keypad
      variant := late.variant.trans early.variant
      picture := Trans.trans early.picture late.picture }

/-- An action that leaves the keys, the variant and the picture alone. -/
theorem sparesKeys_of_same {α : Type} {action : Action α}
    (same : ∀ machine, (leftBy action machine).keypad = machine.keypad ∧
      (leftBy action machine).variant = machine.variant ∧
      (leftBy action machine).framebuffer = machine.framebuffer) :
    Relates SparesKeys action := by
  intro machine
  obtain ⟨keypad, variant, picture⟩ := same machine
  exact ⟨keypad, variant, .inl picture⟩

theorem sparesKeys_readByte (location : Int) : Relates SparesKeys (readByte location) := by
  apply sparesKeys_of_same
  intro machine
  simp only [leftBy, readByte]
  cases machine.memory.read location <;> exact ⟨rfl, rfl, rfl⟩

theorem sparesKeys_writeByte (location : Int) (byte : UInt8) :
    Relates SparesKeys (writeByte location byte) := by
  apply sparesKeys_of_same
  intro machine
  simp only [leftBy, writeByte]
  cases machine.memory.check location <;> exact ⟨rfl, rfl, rfl⟩

theorem sparesKeys_writeBlock (location : Int) (block : List UInt8) :
    Relates SparesKeys (writeBlock location block) := by
  apply sparesKeys_of_same
  intro machine
  simp only [leftBy, writeBlock]
  cases machine.memory.writeBlock location block <;> exact ⟨rfl, rfl, rfl⟩

theorem sparesKeys_setRegister (x : Register) (byte : UInt8) :
    Relates SparesKeys (setRegister x byte) :=
  sparesKeys_of_same fun _ => ⟨rfl, rfl, rfl⟩

theorem sparesKeys_get : Relates SparesKeys (get : Action Machine) :=
  sparesKeys_of_same fun _ => ⟨rfl, rfl, rfl⟩

theorem sparesKeys_onFramebuffer {α : Type}
    {action : EStateM Framebuffer.Fault Framebuffer α} (marked : Relates Marked action) :
    Relates SparesKeys (onFramebuffer action) := by
  intro machine
  have drawn := marked machine.framebuffer
  simp only [leftBy, onFramebuffer] at drawn ⊢
  cases ran : action machine.framebuffer with
  | ok value framebuffer =>
    rw [ran] at drawn
    exact ⟨rfl, rfl, drawn⟩
  | error fault framebuffer =>
    rw [ran] at drawn
    exact ⟨rfl, rfl, drawn⟩

/-! ### Instructions -/

theorem sparesKeys_storeBytes (address : Int) (bytes : List UInt8) :
    Relates SparesKeys (storeBytes address bytes) := by
  induction bytes generalizing address with
  | nil => exact .pure ()
  | cons byte rest ih => exact (sparesKeys_writeByte _ byte).bind fun _ => ih _

theorem sparesKeys_fetchBytes (address : Int) (count : Nat) :
    Relates SparesKeys (fetchBytes address count) := by
  induction count generalizing address with
  | zero => exact .pure []
  | succ count ih =>
    refine (sparesKeys_readByte _).bind fun byte => (ih _).bind fun rest => ?_
    exact .pure (byte :: rest)

theorem sparesKeys_loadRegisterList (address : Int) (registers : List Register) :
    Relates SparesKeys (loadRegisterList address registers) := by
  induction registers generalizing address with
  | nil => exact .pure ()
  | cons x rest ih =>
    refine (sparesKeys_readByte _).bind fun byte => ?_
    exact (sparesKeys_setRegister x byte).bind fun _ => ih _

theorem sparesKeys_skipWhen (condition : Bool) : Relates SparesKeys (skipWhen condition) := by
  cases condition <;> exact sparesKeys_of_same fun _ => ⟨rfl, rfl, rfl⟩

theorem sparesKeys_loadRegister (x : Register) (value : Int) :
    Relates SparesKeys (loadRegister x value) := by
  rw [loadRegister]
  split <;> exact sparesKeys_of_same fun _ => ⟨rfl, rfl, rfl⟩

theorem sparesKeys_draw (x y : Register) (height : Fin 16) :
    Relates SparesKeys (execute (.draw x y height)) := by
  refine sparesKeys_get.bind fun machine => (sparesKeys_setRegister _ _).bind fun _ => ?_
  refine (sparesKeys_fetchBytes _ _).bind fun rows => sparesKeys_get.bind fun cleared => ?_
  refine (sparesKeys_onFramebuffer (Framebuffer.marked_drawSprite _ _ rows)).bind ?_
  exact fun collided => sparesKeys_setRegister _ _

theorem sparesKeys_execute {instruction : Instruction} (untested : instruction.testsKey = false) :
    Relates SparesKeys (execute instruction) := by
  cases instruction
  case skipIfKey | skipUnlessKey => cases untested
  case clearScreen => exact fun _ => ⟨rfl, rfl, .inr rfl⟩
  case draw x y height => exact sparesKeys_draw x y height
  case ret =>
    apply sparesKeys_of_same
    intro machine
    rw [leftBy, execute, bind_ok (get_eq machine)]
    cases machine.stack.pop <;> exact ⟨rfl, rfl, rfl⟩
  case call address =>
    apply sparesKeys_of_same
    intro machine
    rw [leftBy, execute, bind_ok (get_eq machine)]
    cases machine.stack.push machine.pc <;> exact ⟨rfl, rfl, rfl⟩
  case skipIfByte | skipUnlessByte | skipIfEqual | skipUnlessEqual =>
    exact sparesKeys_get.bind fun _ => sparesKeys_skipWhen _
  case readDelay => exact sparesKeys_get.bind fun _ => sparesKeys_loadRegister _ _
  case awaitKey x =>
    apply sparesKeys_of_same
    intro machine
    rw [leftBy, execute, bind_ok (get_eq machine)]
    cases machine.keypad.firstDown <;> exact ⟨rfl, rfl, rfl⟩
  case storeDecimal | storeRegisters =>
    exact sparesKeys_get.bind fun _ => sparesKeys_storeBytes _ _
  case loadRegisters => exact sparesKeys_get.bind fun _ => sparesKeys_loadRegisterList _ _
  all_goals exact sparesKeys_of_same fun _ => ⟨rfl, rfl, rfl⟩

/-- A test of a key never fails. -/
theorem execute_of_testsKey {instruction : Instruction} (tests : instruction.testsKey = true)
    (machine : Machine) :
    ∃ x skipsWhenDown, (instruction = .skipIfKey x ∨ instruction = .skipUnlessKey x) ∧
      execute instruction machine = .ok () (machine.keyTested x skipsWhenDown) := by
  cases instruction
  case skipIfKey x => exact ⟨x, true, .inl rfl, testKey_eq machine x true⟩
  case skipUnlessKey x => exact ⟨x, false, .inr rfl, testKey_eq machine x false⟩
  all_goals cases tests

/-! ### Cycles -/

theorem sparesKeys_fetchNext : Relates SparesKeys fetchNext := by
  have fetches : Relates SparesKeys fetch := by
    refine sparesKeys_get.bind fun machine => (sparesKeys_readByte _).bind fun high => ?_
    refine (sparesKeys_readByte _).bind fun low => ?_
    exact .pure _
  refine Relates.bind (sparesKeys_of_same fun _ => ⟨rfl, rfl, rfl⟩) fun _ => ?_
  refine fetches.bind fun word => ?_
  refine Relates.bind (sparesKeys_of_same fun _ => ⟨rfl, rfl, rfl⟩) fun _ => ?_
  exact sparesKeys_of_same fun _ => ⟨rfl, rfl, rfl⟩

theorem machine_outcome (action : Action Unit) (traces : List String) (machine : Machine) :
    (outcome action traces machine).machine = leftBy action machine := by
  rw [outcome, leftBy]
  cases action machine <;> rfl

/-- The instruction that the next cycle executes, with the machine that has fetched it. -/
def executing? (machine : Machine) : Option (Instruction × Machine) :=
  match fetchNext machine with
  | .ok _ fetched => (Instruction.decode? fetched.word).map fun instruction => (instruction, fetched)
  | .error _ _ => none

/-- A cycle that executes nothing ends with what it fetched, or where fetching failed. -/
theorem sparesKeys_cycle (idle : machine.executing? = none) :
    SparesKeys machine machine.cycle.machine := by
  have fetches := sparesKeys_fetchNext machine
  rw [executing?] at idle
  rw [cycle]
  cases ran : fetchNext machine with
  | ok _ fetched =>
    rw [leftBy_ok ran] at fetches
    simp only [ran, Option.map_eq_none_iff] at idle
    simp only [dispatch, idle]
    exact fetches
  | error fault left =>
    rw [leftBy_error ran] at fetches
    exact fetches

theorem cycle_of_executing {instruction : Instruction} {fetched : Machine}
    (executes : machine.executing? = some (instruction, fetched)) :
    SparesKeys machine fetched ∧ machine.cycle.machine = leftBy (execute instruction) fetched := by
  have fetches := sparesKeys_fetchNext machine
  rw [executing?] at executes
  rw [cycle]
  cases ran : fetchNext machine with
  | ok _ left =>
    rw [leftBy_ok ran] at fetches
    simp only [ran, Option.map_eq_some_iff, Prod.mk.injEq] at executes
    obtain ⟨_, decoded, rfl, rfl⟩ := executes
    simp only [dispatch, decoded, machine_outcome]
    exact ⟨fetches, trivial⟩
  | error fault left => simp [ran] at executes

/-! ### Loading and resetting -/

theorem sparesKeys_load (program : List UInt8) : Relates SparesKeys (load program) := by
  refine sparesKeys_get.bind fun machine => ?_
  have places : Relates SparesKeys (do installFont; writeBlock Layout.programStart program) :=
    (sparesKeys_writeBlock _ _).bind fun _ => sparesKeys_writeBlock _ _
  simp only
  split
  · exact Relates.bind (sparesKeys_of_same fun _ => ⟨rfl, rfl, rfl⟩) fun _ => places
  · exact places

theorem sparesKeys_reset : Relates SparesKeys reset := by
  -- The picture is cleared first, and installing the font afterwards leaves it alone.
  refine Relates.bind (fun _ => ⟨rfl, rfl, .inr rfl⟩) fun _ => ?_
  exact sparesKeys_writeBlock _ _

end Machine

end Chip8
